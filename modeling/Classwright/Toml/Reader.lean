import Classwright.Toml.Scalar
import Classwright.Toml.Table
/-!
# Reading TOML

A file is a run of lines: a key with its value, the header of a table or of the next table of a
list, or nothing. A file with any fault has no value.
-/
namespace Classwright.Toml

/-- Deepest nesting of values, and one more than the most names in a key. -/
def maxDepth : Nat := 79

/-! ## Keys -/

/-- A character of a name without quotes. -/
def isBareChar (c : Char) : Bool := c.isAlphanum || c == '-' || c == '_'

def name? (t : Text) : Option (Text × Text) :=
  match t with
  | '"' :: _ | '\'' :: _ => shortString? t
  | _ =>
    let name : Text := t.takeWhile isBareChar
    if name.isEmpty then none else some (name, t.drop name.length)

/-- Names with dots between them, and blanks around each. -/
def names? : Nat → Text → Option (List Text × Text)
  | 0, _ => none
  | fuel + 1, t => do
    let (name, rest) ← name? (skipBlanks t)
    match skipBlanks rest with
    | '.' :: rest =>
      let (names, rest) ← names? fuel rest
      return (name :: names, rest)
    | rest => return ([name], rest)

/-- A key: the names that lead to its table, and its last name. -/
def key? (t : Text) : Option ((List Text × Text) × Text) := do
  let (names, rest) ← names? maxDepth t
  let last ← names.getLast?
  return ((names.dropLast, last), rest)

/-! ## Values -/

/-- The rest of a list behind its bracket. A comma may follow the last item. -/
def items (value : Reader Json) : Nat → Reader (List Json)
  | 0, _ => none
  | fuel + 1, t =>
    match skipLines t.length t with
    | ']' :: rest => some ([], rest)
    | t => do
      let (j, rest) ← value t
      match skipLines rest.length rest with
      | ',' :: rest =>
        let (js, rest) ← items value fuel rest
        return (j :: js, rest)
      | ']' :: rest => return ([j], rest)
      | _ => none

/-- A key and its value with an equals sign between them. -/
def pair? (value : Reader Json) (t : Text) : Option ((List Text × Text × Json) × Text) := do
  let ((path, key), rest) ← key? t
  let (j, rest) ← value (skipBlanks (← Text.stripStart? rest "="))
  return ((path, key, j), rest)

/-- The rest of a table on one line, from its first pair on. -/
def pairs (value : Reader Json) : Nat → Entries → Reader Entries
  | 0, _, _ => none
  | fuel + 1, entries, t => do
    let ((path, key, j), rest) ← pair? value t
    let entries ← entries.insert key j path
    match skipBlanks rest with
    | ',' :: rest => pairs value fuel entries rest
    | '\x7d' :: rest => return (entries, rest)
    | _ => none

/-- A table on one line, behind its brace. -/
def inlineTable (value : Reader Json) (t : Text) : Option (Json × Text) :=
  match skipBlanks t with
  | '\x7d' :: rest => some (.obj [], rest)
  | t => (pairs value t.length [] t).map fun (entries, rest) => (entries.toJson, rest)

/-- A value that nests at most so deep. -/
def value? : Nat → Reader Json
  | depth, t =>
    match t with
    | '[' :: rest =>
      match depth with
      | 0 => none
      | depth + 1 => (items (value? depth) t.length rest).map fun (js, rest) => (.arr js, rest)
    | '\x7b' :: rest =>
      match depth with
      | 0 => none
      | depth + 1 => inlineTable (value? depth) rest
    | _ => scalar? t

/-! ## Lines -/

/-- A file that is being read: its table, and the path of the table at hand. -/
structure Draft where
  root : Entries
  here : List Text

/-- The value of a key in the table at hand. -/
def Draft.add (d : Draft) (path : List Text) (key : Text) (j : Json) : Option Draft :=
  (d.root.alter (Entries.insert key j path) d.here).map ({ d with root := · })

/-- A header behind its opening bracket or brackets. -/
def Draft.header? (d : Draft) (begin : Text → Entries → Option Entries) (closing t : Text) :
    Option (Draft × Text) := do
  let ((path, key), rest) ← key? t
  let rest ← endLine? (← Text.stripStart? rest closing)
  let root ← d.root.alter (begin key) path
  return (⟨root, path ++ [key]⟩, rest)

def Draft.line? (d : Draft) (t : Text) : Option (Draft × Text) :=
  match t with
  | '#' :: _ | '\n' :: _ | '\r' :: _ => (endLine? t).map (d, ·)
  | '[' :: '[' :: rest => d.header? Entries.beginNext "]]" rest
  | '[' :: rest => d.header? Entries.beginTable "]" rest
  | _ => do
    let ((path, key, j), rest) ← pair? (value? maxDepth) t
    return (← d.add path key j, ← endLine? rest)

/-- Read lines to the end. Each takes at least one character. -/
def Draft.readLines : Nat → Draft → Text → Option Draft
  | 0, _, _ => none
  | fuel + 1, d, t =>
    match skipBlanks t with
    | [] => some d
    | t => do
      let (d, rest) ← d.line? t
      readLines fuel d rest

/-- The value of a file; a mark of byte order may come first. -/
def read? (t : Text) : Option Json := do
  let t := (t.stripStart? ['\ufeff']).getD t
  let d ← Draft.readLines (t.length + 1) ⟨[], []⟩ t
  return d.root.toJson

end Classwright.Toml
