import Classwright.Number.Double
/-!
# JSON values

A value tree whose objects keep their keys sorted and distinct: a key that is set again takes the
later value. Numbers are whole numbers of 64 bits or doubles.
-/
namespace Classwright

inductive Json where
  | null
  | bool (b : Bool)
  | int (n : Int)
  | double (d : Double)
  | str (t : Text)
  | arr (items : List Json)
  | obj (fields : List (Text × Json))

namespace Json

/-- Set a key of a sorted object: the new value replaces an old one. -/
def setField (key : Text) (value : Json) : List (Text × Json) → List (Text × Json)
  | [] => [(key, value)]
  | (k, v) :: rest =>
    if key = k then (key, value) :: rest
    else if key < k then (key, value) :: (k, v) :: rest
    else (k, v) :: setField key value rest

/-- The object with these fields, of which the last one with a key counts. -/
def ofFields (fields : List (Text × Json)) : Json :=
  .obj (fields.foldl (fun sorted (k, v) => setField k v sorted) [])

/-- The value of a key, when the value is an object that has it. -/
def get? (key : Text) : Json → Option Json
  | .obj fields => fields.lookup key
  | _ => none

/-- The text of a string value. -/
def text? : Json → Option Text
  | .str t => some t
  | _ => none

mutual
/-- Number of values on the longest way down. -/
def height : Json → Nat
  | .arr items => heightOfItems items + 1
  | .obj fields => heightOfFields fields + 1
  | _ => 1

def heightOfItems : List Json → Nat
  | [] => 0
  | j :: rest => max (height j) (heightOfItems rest)

def heightOfFields : List (Text × Json) → Nat
  | [] => 0
  | (_, j) :: rest => max (height j) (heightOfFields rest)
end

end Json
end Classwright

namespace Classwright.Json

/-! ## Writing JSON

The compact form: no blanks between tokens, control characters as escapes, all other characters as
they are. -/

/-- A character inside a string. -/
def escapeChar (c : Char) : Text :=
  if c == '"' then "\\\""
  else if c == '\\' then "\\\\"
  else if c == '\n' then "\\n"
  else if c == '\r' then "\\r"
  else if c == '\t' then "\\t"
  else if c.toNat == 8 then "\\b"
  else if c.toNat == 12 then "\\f"
  else if c.toNat < 0x20 then "\\u00" ++ [hexDigit (c.toNat / 16), hexDigit (c.toNat % 16)]
  else [c]

def quoted (t : Text) : Text := '"' :: t.flatMap escapeChar ++ ['"']

mutual
/-- The compact text of a value. -/
def write : Json → Text
  | .null => "null"
  | .bool true => "true"
  | .bool false => "false"
  | .int n => intText n
  | .double d => d.text
  | .str t => quoted t
  | .arr items => '[' :: writeItems items ++ [']']
  | .obj fields => '\x7b' :: writeFields fields ++ ['\x7d']

/-- The items of an array, a comma between neighbours. -/
def writeItems : List Json → Text
  | [] => []
  | [j] => write j
  | j :: rest => write j ++ ',' :: writeItems rest

/-- The fields of an object, a comma between neighbours. -/
def writeFields : List (Text × Json) → Text
  | [] => []
  | [(k, j)] => quoted k ++ ':' :: write j
  | (k, j) :: rest => quoted k ++ ':' :: write j ++ ',' :: writeFields rest
end

end Classwright.Json
