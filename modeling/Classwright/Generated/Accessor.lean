import Classwright.Generated.Function
import Classwright.Member
import Classwright.PublicSection
/-!
# Accessors

The getter and the setter of a data member. A choice is offered for each accessor that the class
does not have yet, in both placements, and the label of a choice is read back as that choice.
-/
namespace Classwright

/-- The accessors that one choice writes. -/
inductive Accessor where
  | getter
  | setter
  | both
deriving DecidableEq

namespace Accessor

def all : List Accessor := [getter, setter, both]

def label : Accessor → Text
  | getter => "Getter"
  | setter => "Setter"
  | both => "Getter & Setter"

end Accessor

/-- A choice of accessors and of the place for their bodies. -/
structure AccessorOption where
  accessor : Accessor
  placement : Placement
deriving DecidableEq

namespace AccessorOption

/-- The text of a choice, as it is offered. -/
def label (o : AccessorOption) : Text := o.accessor.label ++ ' ' :: o.placement.label

/-- The choice of a placement whose label is at the end of a text. -/
def ofPlacement? (t : Text) (p : Placement) : Option (Option AccessorOption) :=
  (t.stripEnd? p.label).map fun name =>
    (Accessor.all.find? fun a => a.label == name.trimEnd).map (⟨·, p⟩)

/-- The choice that a text names; white space at its ends does not count. -/
def ofLabel? (t : Text) : Option AccessorOption :=
  (Placement.all.findSome? (ofPlacement? t.trim)).join

end AccessorOption

namespace Member

def getterName (m : Member) : Text := m.canonicalName

def setterName (m : Member) : Text := "set" ++ m.canonicalName.upperFirst

/-- Type under which a value is passed: built-in types by value, others by constant reference. -/
def passedType (m : Member) : Text :=
  if m.isBuiltin then m.type else "const " ++ m.type ++ "&"

def getter (m : Member) : FunctionParts where
  lead := m.passedType ++ " "
  main := m.getterName ++ "() const"
  qualifiedHead := m.passedType ++ " " ++ m.className ++ "::" ++ m.getterName ++ "() const"
  body := ["return this->" ++ m.declaredName ++ ";"]

def setter (m : Member) : FunctionParts :=
  let parameter := "new" ++ m.canonicalName.upperFirst
  { lead := "void "
    main := m.setterName ++ "(" ++ m.passedType ++ " " ++ parameter ++ ")"
    qualifiedHead := "void " ++ m.className ++ "::" ++ m.setterName ++ "(" ++ m.passedType ++ " " ++
      parameter ++ ")"
    body := ["this->" ++ m.declaredName ++ " = " ++ parameter ++ ";"] }

def accessors (m : Member) : Accessor → List FunctionParts
  | .getter => [m.getter]
  | .setter => [m.setter]
  | .both => [m.getter, m.setter]

/-- Choices of accessors that the class does not have, given which it has. -/
def missingAccessors (hasGetter hasSetter : Bool) : List Accessor :=
  (if hasGetter then [] else [.getter]) ++ (if hasSetter then [] else [.setter]) ++
    (if hasGetter || hasSetter then [] else [.both])

/-- The choices for a member of a class; there are none for a member that is not complete. -/
def accessorOptions (m : Member) (c : ClassSymbol) : List AccessorOption :=
  if m.isComplete then
    (missingAccessors (c.hasMethod m.getterName) (c.hasMethod m.setterName)).flatMap fun a =>
      Placement.all.map (⟨a, ·⟩)
  else []

/-- The functions of a choice, their declarations indented for a class body. -/
def writeAccessors (m : Member) (o : AccessorOption) (indent : Text) : List GeneratedFunction :=
  if m.isComplete then
    (m.accessors o.accessor).map fun p => (p.render o.placement).indented indent
  else []

end Member
end Classwright
