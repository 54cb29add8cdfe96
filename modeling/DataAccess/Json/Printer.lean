/-
  DataAccess.Json.Printer — compact JSON text.

  No blanks, members in their order, and only those characters escaped that
  JSON does not admit in a string.
-/
import DataAccess.Json.Basic

namespace DataAccess.Json

/-- How a character is written within a string. -/
def escape (c : Char) : List Char :=
  if c = '"' then ['\\', '"']
  else if c = '\\' then ['\\', '\\']
  else if c = '\n' then ['\\', 'n']
  else if c = '\r' then ['\\', 'r']
  else if c = '\t' then ['\\', 't']
  else if c = Char.ofNat 8 then ['\\', 'b']
  else if c = Char.ofNat 12 then ['\\', 'f']
  else if c.toNat < 32 then
    let digits := Nat.toDigits 16 c.toNat
    ['\\', 'u'] ++ List.replicate (4 - digits.length) '0' ++ digits
  else [c]

/-- A string in quotes. -/
def writeString (s : String) : List Char := '"' :: (s.toList.flatMap escape ++ ['"'])

/-- A number; a double that has no JSON form is written as the absent value. -/
def writeNumber : Number → List Char
  | .integer n => (toString n).toList
  | .float x =>
      if x.isNaN || x.isInf then ['n', 'u', 'l', 'l'] else (Decimal.json.write x).toList

mutual
/-- The text of a value. -/
def write : Json → List Char
  | null => ['n', 'u', 'l', 'l']
  | boolean b => if b then ['t', 'r', 'u', 'e'] else ['f', 'a', 'l', 's', 'e']
  | number n => writeNumber n
  | string s => writeString s
  | array items => '[' :: (writeItems items ++ [']'])
  | object members => '\x7b' :: (writeMembers members ++ ['\x7d'])

/-- Values with commas between them. -/
def writeItems : List Json → List Char
  | [] => []
  | [a] => write a
  | a :: as => write a ++ ',' :: writeItems as

/-- Members with commas between them. -/
def writeMembers : List (String × Json) → List Char
  | [] => []
  | [(k, a)] => writeString k ++ ':' :: write a
  | (k, a) :: ms => writeString k ++ ':' :: write a ++ ',' :: writeMembers ms
end

/-- The compact text of a value. -/
def render (j : Json) : String := String.ofList j.write

end DataAccess.Json
