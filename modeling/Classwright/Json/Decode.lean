import Classwright.Json.Basic
/-!
# Typed reading of JSON values

A decoder turns a value into a typed one or says what is wrong with it. A record is given as an
object, whose unknown keys are ignored, or as the array of its fields in their order. Of several
faults in an object, the wrong value with the smallest key is reported; a missing field is reported
only when all values that are there are right, the first missing one in the order of the record.
-/
namespace Classwright

/-- What is wrong with a value. -/
inductive DecodeError where
  /-- A record lacks a field that has no default. -/
  | missingField (name : Text)
  /-- A value has another type than is needed, or a number is out of range. -/
  | badValue
deriving DecidableEq

/-- A typed reader of values. -/
abbrev Decoder (α : Type) := Json → Except DecodeError α

/-- The fault of an object read as a record. -/
inductive FieldFault where
  | inValue (key : Text) (error : DecodeError)
  | missing (name : Text)

/-- The fault that is reported when two parts of a record are both at fault. -/
def FieldFault.first : FieldFault → FieldFault → FieldFault
  | .inValue k e, .inValue k' e' => if k' < k then .inValue k' e' else .inValue k e
  | .inValue k e, .missing _ => .inValue k e
  | .missing _, .inValue k e => .inValue k e
  | .missing n, .missing _ => .missing n

def FieldFault.error : FieldFault → DecodeError
  | .inValue _ e => e
  | .missing n => .missingField n

/-- A reader of some fields of a record, from the fields of an object or from the items of an
array, of which it leaves the rest. -/
structure Fields (α : Type) where
  ofObject : List (Text × Json) → Except FieldFault α
  ofItems : List Json → Except DecodeError (α × List Json)

namespace Fields

/-- Both readers, each on its own fields. -/
def both (f : Fields (α → β)) (x : Fields α) : Fields β where
  ofObject fields :=
    match f.ofObject fields, x.ofObject fields with
    | .ok g, .ok a => .ok (g a)
    | .error e, .ok _ => .error e
    | .ok _, .error e => .error e
    | .error e, .error e' => .error (e.first e')
  ofItems items :=
    match f.ofItems items with
    | .error e => .error e
    | .ok (g, rest) =>
      match x.ofItems rest with
      | .error e => .error e
      | .ok (a, rest) => .ok (g a, rest)

instance : Applicative Fields where
  pure a := ⟨fun _ => .ok a, fun items => .ok (a, items)⟩
  seq f x := both f (x ())

/-- A field: how a value is read, what an absent key means, and what an array that is too short
means. -/
def field (name : Text) (read : Decoder α) (absent : Except FieldFault α)
    (short : Except DecodeError α) : Fields α where
  ofObject fields :=
    match fields.lookup name with
    | none => absent
    | some j => (read j).mapError (.inValue name)
  ofItems
    | [] => short.map (·, [])
    | j :: rest => (read j).map (·, rest)

def required (name : Text) (read : Decoder α) : Fields α :=
  field name read (.error (.missing name)) (.error .badValue)

/-- A field with a default, also in an array. -/
def withDefault (name : Text) (read : Decoder α) (default : α) : Fields α :=
  field name read (.ok default) (.ok default)

/-- A value, or null for none. -/
def orNull (read : Decoder α) : Decoder (Option α)
  | .null => .ok none
  | j => (read j).map some

/-- A field that may be absent or null, but whose place an array has to fill. -/
def optional (name : Text) (read : Decoder α) : Fields (Option α) :=
  field name (orNull read) (.ok none) (.error .badValue)

/-- A field that may be absent or null, in an array too. -/
def optionalAtEnd (name : Text) (read : Decoder α) : Fields (Option α) :=
  field name (orNull read) (.ok none) (.ok none)

/-- A record given as an object. -/
def objectOnly (f : Fields α) : Decoder α
  | .obj fields => (f.ofObject fields).mapError FieldFault.error
  | _ => .error .badValue

/-- A record given as an object or as the array of its fields. -/
def record (f : Fields α) : Decoder α
  | .obj fields => (f.ofObject fields).mapError FieldFault.error
  | .arr items =>
    match f.ofItems items with
    | .ok (a, []) => .ok a
    | .ok _ => .error .badValue
    | .error e => .error e
  | _ => .error .badValue

end Fields

namespace Json

def asText : Decoder Text
  | .str t => .ok t
  | _ => .error .badValue

/-- A truth value. -/
def asBool : Decoder Bool
  | .bool b => .ok b
  | _ => .error .badValue

def asNatBelow (bound : Nat) : Decoder Nat
  | .int (.ofNat n) => if n < bound then .ok n else .error .badValue
  | _ => .error .badValue

/-- A whole number of 32 bits with sign. -/
def asInt32 : Decoder Int
  | .int n => if -(twoTo 31 : Int) ≤ n ∧ n < (twoTo 31 : Int) then .ok n else .error .badValue
  | _ => .error .badValue

def asListOf (read : Decoder α) : Decoder (List α)
  | .arr items => items.mapM read
  | _ => .error .badValue

/-- Any value. -/
def asAny : Decoder Json := .ok

def asWord : Decoder Nat := asNatBelow (twoTo 32)

end Json
end Classwright
