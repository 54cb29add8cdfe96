/-
  DataAccess.Json.Reader — from tokens to values.

  A value is read with a stack of the containers around it.  At most 127
  containers may be open at once.  A member that is given twice keeps its
  first place and its last value.

  Main statement:
    * `parse_ok_iff`       — a text is accepted if its tokens are one value
                             with nothing after it.
-/
import DataAccess.Json.Token

namespace DataAccess.Json

/-- A container that is still open, its content last first, with the key
under which the next value goes. -/
inductive Frame where
  | array (items : List Json)
  | object (members : List (String × Json)) (key : String)

/-- How many containers may be open at once. -/
def maxDepth : Nat := 127

mutual
/-- Reads a value inside the open containers of the stack. -/
def readValue (stack : List Frame) : List Token → Option (Json × List Token)
  | .null :: ts => close stack .null ts
  | .boolean b :: ts => close stack (.boolean b) ts
  | .number (some n) :: ts => close stack (.number n) ts
  | .string (some s) :: ts => close stack (.string s) ts
  | .openBracket :: .closeBracket :: ts =>
      if stack.length < maxDepth then close stack (.array []) ts else none
  | .openBracket :: ts =>
      if stack.length < maxDepth then readValue (.array [] :: stack) ts else none
  | .openBrace :: .closeBrace :: ts =>
      if stack.length < maxDepth then close stack (.object []) ts else none
  | .openBrace :: .string (some k) :: .colon :: ts =>
      if stack.length < maxDepth then readValue (.object [] k :: stack) ts else none
  | _ => none

/-- Puts a finished value into the innermost open container; without one it
is the whole value. -/
def close (stack : List Frame) (v : Json) : List Token → Option (Json × List Token)
  | .comma :: .string (some k) :: .colon :: ts =>
      match stack with
      | .object members key :: outer =>
          readValue (.object (Assoc.insert members key v) k :: outer) ts
      | .array items :: outer =>
          readValue (.array (v :: items) :: outer) (.string (some k) :: .colon :: ts)
      | [] => some (v, .comma :: .string (some k) :: .colon :: ts)
  | .comma :: ts =>
      match stack with
      | .array items :: outer => readValue (.array (v :: items) :: outer) ts
      | .object _ _ :: _ => none
      | [] => some (v, .comma :: ts)
  | .closeBracket :: ts =>
      match stack with
      | .array items :: outer => close outer (.array (v :: items).reverse) ts
      | .object _ _ :: _ => none
      | [] => some (v, .closeBracket :: ts)
  | .closeBrace :: ts =>
      match stack with
      | .object members key :: outer => close outer (.object (Assoc.insert members key v)) ts
      | .array _ :: _ => none
      | [] => some (v, .closeBrace :: ts)
  | ts =>
      match stack with
      | [] => some (v, ts)
      | _ => none
end

/-- Reads a text that is one value. -/
def parse [Complaints] (s : String) : Except JsonError Json :=
  match readValue [] (scan s) with
  | some (v, []) => .ok v
  | _ => .error (Fault.malformed.inText "Value" s)

/-- A text is accepted exactly if its tokens are one value with nothing after it. -/
theorem parse_ok_iff [Complaints] {s : String} {v : Json} :
    parse s = .ok v ↔ readValue [] (scan s) = some (v, []) := by
  unfold parse
  split
  · next w h => simp [h]
  · next h =>
    simp only [reduceCtorEq, false_iff]
    exact fun hv => h v hv

end DataAccess.Json
