/-
  DataAccess.Json.Stream — typed values straight from the text.

  A value of a known type is read token by token, without reading the text
  as a whole first.  So the first token that does not fit is the complaint,
  even if the text breaks further on, and values that nobody asked for are
  passed over without looking at how large or how deep they are.
-/
import DataAccess.Json.Reader

namespace DataAccess.Json

/-! ## §1. Passing over. -/

mutual
/-- Passes over a value; the stack tells which of the open containers are
objects. -/
def skipValue (stack : List Bool) : List Token → Option (List Token)
  | .null :: ts => skipAfter stack ts
  | .boolean _ :: ts => skipAfter stack ts
  | .number _ :: ts => skipAfter stack ts
  | .string _ :: ts => skipAfter stack ts
  | .openBracket :: .closeBracket :: ts => skipAfter stack ts
  | .openBracket :: ts => skipValue (false :: stack) ts
  | .openBrace :: .closeBrace :: ts => skipAfter stack ts
  | .openBrace :: .string _ :: .colon :: ts => skipValue (true :: stack) ts
  | _ => none

/-- Passes over what follows a value in the innermost open container. -/
def skipAfter (stack : List Bool) : List Token → Option (List Token)
  | .comma :: .string s :: .colon :: ts =>
      match stack with
      | true :: outer => skipValue (true :: outer) ts
      | false :: _ => none
      | [] => some (.comma :: .string s :: .colon :: ts)
  | .comma :: ts =>
      match stack with
      | false :: outer => skipValue (false :: outer) ts
      | true :: _ => none
      | [] => some (.comma :: ts)
  | .closeBracket :: ts =>
      match stack with
      | false :: outer => skipAfter outer ts
      | true :: _ => none
      | [] => some (.closeBracket :: ts)
  | .closeBrace :: ts =>
      match stack with
      | true :: outer => skipAfter outer ts
      | false :: _ => none
      | [] => some (.closeBrace :: ts)
  | ts =>
      match stack with
      | [] => some ts
      | _ => none
end

/-! ## §2. Single values. -/

/-- Reads a value of some type, given as JSON, and leaves the tokens after it. -/
abbrev Reading := List Token → Except Fault (Json × List Token)

/-- What the next token starts. -/
def found : List Token → Except Fault Found
  | .null :: _ => .ok .null
  | .boolean b :: _ => .ok (.boolean b)
  | .number (some (.integer n)) :: _ => .ok (.integer n)
  | .number (some (.float x)) :: _ => .ok (.float x)
  | .string (some s) :: _ => .ok (.text s)
  | .openBracket :: _ => .ok .sequence
  | .openBrace :: _ => .ok .mapping
  | _ => .error .malformed

/-- The next token starts a value of another type. -/
def otherwise {α : Type} (expected : String) (ts : List Token) : Except Fault α :=
  match found ts with
  | .ok f => .error (.shape (.invalidType f expected))
  | .error e => .error e

/-- An integer between two bounds; `name` is the name of the range. -/
def integerValue (low high : Int) (name : String) : Reading
  | .number (some (.integer n)) :: ts =>
      if low ≤ n ∧ n ≤ high then .ok (.number (.integer n), ts)
      else .error (.shape (.invalidValue (.integer n) name))
  | ts => otherwise name ts

/-- A number as a double. -/
def floatValue : Reading
  | .number (some (.integer n)) :: ts =>
      let x := if n < 0 then (Int64.ofInt n).toFloat else (UInt64.ofNat n.toNat).toFloat
      .ok (.number (.float x), ts)
  | .number (some (.float x)) :: ts => .ok (.number (.float x), ts)
  | ts => otherwise "f64" ts

/-- A text. -/
def textValue : Reading
  | .string (some s) :: ts => .ok (.string s, ts)
  | ts => otherwise "a string" ts

/-- The items of a list from one of them on, in at most so many steps; those
before it stand last first. -/
def itemsFrom (item : Reading) : Nat → List Json → List Token →
    Except Fault (Json × List Token)
  | 0, _, _ => .error .malformed
  | fuel + 1, items, ts =>
      match item ts with
      | .error e => .error e
      | .ok (v, .comma :: ts) => itemsFrom item fuel (v :: items) ts
      | .ok (v, .closeBracket :: ts) => .ok (.array (v :: items).reverse, ts)
      | .ok _ => .error .malformed

/-- A list of items.  Every item takes a token, so as many steps as tokens are
enough. -/
def listValue (item : Reading) : Reading
  | .openBracket :: .closeBracket :: ts => .ok (.array [], ts)
  | .openBracket :: ts => itemsFrom item ts.length [] ts
  | ts => otherwise "a sequence" ts

/-! ## §3. Records. -/

/-- A field of a record and how its value is read. -/
abbrev FieldReading := String × Reading

/-- How many elements a record has, in words. -/
def recordArity (name : String) (fields : List FieldReading) : String :=
  "struct " ++ name ++ " with " ++ toString fields.length
    ++ (if fields.length = 1 then " element" else " elements")

/-- The fields of a record by their places, from one of them on. -/
def placesFrom (arity : String) (members : List (String × Json)) :
    List FieldReading → List Token → Except Fault (Json × List Token)
  | [], .closeBracket :: ts => .ok (.object members, ts)
  | [], _ => .error .malformed
  | _ :: _, .closeBracket :: _ =>
      .error (.shape (.invalidLength members.length arity))
  | (name, read) :: fields, ts =>
      -- every place but the first stands behind a comma
      let rest? := if members.isEmpty then some ts else match ts with
        | .comma :: ts => some ts
        | _ => none
      match rest? with
      | none => .error .malformed
      | some ts =>
          match read ts with
          | .ok (v, ts) => placesFrom arity (members ++ [(name, v)]) fields ts
          | .error e => .error e

/-- The value of a member: that of a field is read, another is passed over. -/
def memberValue (fields : List FieldReading) (members : List (String × Json)) (key : String)
    (ts : List Token) : Except Fault (List (String × Json) × List Token) :=
  match fields.find? (·.1 == key), ts with
  | some (_, read), ts =>
      if members.any (·.1 == key) then .error (.shape (.duplicateField key))
      else match ts with
        | .colon :: ts => (read ts).map fun (v, ts) => (members ++ [(key, v)], ts)
        | _ => .error .malformed
  | none, .colon :: ts =>
      match skipValue [] ts with
      | some ts => .ok (members, ts)
      | none => .error .malformed
  | none, _ => .error .malformed

/-- The record with the members that were read, if no field is missing. -/
def completeRecord (fields : List FieldReading) (members : List (String × Json)) :
    Except Fault Json :=
  match fields.find? fun f => !members.any (·.1 == f.1) with
  | some f => .error (.shape (.missingField f.1))
  | none => .ok (.object members)

/-- The members of a record from one of them on, in at most so many steps. -/
def membersFrom (fields : List FieldReading) : Nat → List (String × Json) → List Token →
    Except Fault (Json × List Token)
  | 0, _, _ => .error .malformed
  | fuel + 1, members, .string (some key) :: ts =>
      match memberValue fields members key ts with
      | .error e => .error e
      | .ok (members, .comma :: ts) => membersFrom fields fuel members ts
      | .ok (members, .closeBrace :: ts) => (completeRecord fields members).map (·, ts)
      | .ok _ => .error .malformed
  | _ + 1, _, _ => .error .malformed

/-- A record with fields: an object, or an array with the fields by their
places. -/
def recordValue (name : String) (fields : List FieldReading) : Reading
  | .openBracket :: ts => placesFrom (recordArity name fields) [] fields ts
  | .openBrace :: .closeBrace :: ts => (completeRecord fields []).map (·, ts)
  | .openBrace :: ts => membersFrom fields ts.length [] ts
  | ts => otherwise ("struct " ++ name) ts

/-! ## §4. Texts. -/

/-- Reads a text that is one value of the type with that name. -/
def readWhole [Complaints] (type : String) (read : Reading) (s : String) : Except JsonError Json :=
  match read (scan s) with
  | .ok (v, []) => .ok v
  | .ok _ => .error (Fault.malformed.inText type s)
  | .error e => .error (e.inText type s)

end DataAccess.Json
