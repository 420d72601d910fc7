import Classwright.Json.Basic
/-!
# Tables of a TOML file

A table is built entry by entry. It remembers how each table inside it came to be, because that
decides what may still be added: a table of a header is not opened again, one that was only passed
through by a header may still get a header of its own, and one made by a dotted key takes further
dotted keys.
-/
namespace Classwright.Toml

/-- How a table came to be. -/
inductive Origin where
  /-- It has its own header. -/
  | header
  /-- A header of a table inside it passed through it. -/
  | passed
  /-- A dotted key passed through it. -/
  | dotted
deriving DecidableEq

/-- What a key of a table stands for. -/
inductive Entry where
  | value (j : Json)
  | table (origin : Origin) (entries : List (Text × Entry))
  /-- A list of tables, of which only the last one can still grow. -/
  | tables (finished : List Json) (last : List (Text × Entry))

/-- Keys with their entries. -/
abbrev Entries := List (Text × Entry)

mutual
def Entry.toJson : Entry → Json
  | .value j => j
  | .table _ entries => .ofFields (fieldsOf entries)
  | .tables finished last => .arr (finished ++ [.ofFields (fieldsOf last)])

def fieldsOf : Entries → List (Text × Json)
  | [] => []
  | (k, e) :: rest => (k, e.toJson) :: fieldsOf rest
end

def Entries.toJson (entries : Entries) : Json := .ofFields (fieldsOf entries)

namespace Entries

def put (key : Text) (e : Entry) : Entries → Entries
  | [] => [(key, e)]
  | (k, old) :: rest => if k = key then (key, e) :: rest else (k, old) :: put key e rest

/-- Change the table that a header leads to. Tables that are missing on the way are made; a list of
tables leads to its last one. -/
def alter (change : Entries → Option Entries) : List Text → Entries → Option Entries
  | [], entries => change entries
  | key :: path, entries =>
    match entries.lookup key with
    | none => (alter change path []).map fun new => put key (.table .passed new) entries
    | some (.table o old) => (alter change path old).map fun new => put key (.table o new) entries
    | some (.tables done old) =>
      (alter change path old).map fun new => put key (.tables done new) entries
    | some (.value _) => none

def beginTable (key : Text) (entries : Entries) : Option Entries :=
  match entries.lookup key with
  | none => some (put key (.table .header []) entries)
  | some (.table .passed old) => some (put key (.table .header old) entries)
  | _ => none

def beginNext (key : Text) (entries : Entries) : Option Entries :=
  match entries.lookup key with
  | none => some (put key (.tables [] []) entries)
  | some (.tables done last) => some (put key (.tables (done ++ [toJson last]) []) entries)
  | _ => none

/-- Add a value under a dotted key: the last name, behind the names that lead to its table. The
table has to be the one at hand or one made by dotted keys, and a name is given only once. -/
def insert (key : Text) (j : Json) : List Text → Entries → Option Entries
  | [], entries => if (entries.lookup key).isSome then none else some (put key (.value j) entries)
  | name :: path, entries =>
    match entries.lookup name with
    | none => (insert key j path []).map fun new => put name (.table .dotted new) entries
    | some (.table o old) =>
      if o = .dotted ∨ (o = .passed ∧ path ≠ []) then
        (insert key j path old).map fun new => put name (.table o new) entries
      else none
    | some (.tables done old) =>
      if path = [] then none
      else (insert key j path old).map fun new => put name (.tables done new) entries
    | some (.value _) => none

end Entries
end Classwright.Toml
