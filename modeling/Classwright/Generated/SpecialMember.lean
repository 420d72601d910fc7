import Classwright.Generated.Function
/-!
# Special members

The functions that a class has whether or not it declares them: construction, destruction, copy
and move.
-/
namespace Classwright

inductive SpecialMember where
  | constructor
  | destructor
  | copyConstructor
  | moveConstructor
  | copyAssignment
  | moveAssignment
deriving DecidableEq

namespace SpecialMember

/-- All of them, in the order in which they are offered. -/
def all : List SpecialMember :=
  [constructor, destructor, copyConstructor, moveConstructor, copyAssignment, moveAssignment]

def label : SpecialMember → Text
  | constructor => "constructor"
  | destructor => "destructor"
  | copyConstructor => "copy constructor"
  | moveConstructor => "move constructor"
  | copyAssignment => "copy assignment"
  | moveAssignment => "move assignment"

/-- The member that a text names; white space at its ends does not count. -/
def ofLabel? (t : Text) : Option SpecialMember := all.find? (·.label == t.trim)

/-- What stands in front of a destructor inside its class. -/
def destructorSpecifier : Text := "virtual "

/-- The parts of the member of a class; its body is empty. -/
def parts (name : Text) : SpecialMember → FunctionParts
  | constructor => ⟨[], name ++ "()", name ++ "::" ++ name ++ "()", []⟩
  | destructor => ⟨destructorSpecifier, '~' :: name ++ "()", name ++ "::~" ++ name ++ "()", []⟩
  | copyConstructor =>
    ⟨[], name ++ "(const " ++ name ++ "& other)",
      name ++ "::" ++ name ++ "(const " ++ name ++ "& other)", []⟩
  | moveConstructor =>
    ⟨[], name ++ "(" ++ name ++ "&& other) noexcept",
      name ++ "::" ++ name ++ "(" ++ name ++ "&& other) noexcept", []⟩
  | copyAssignment =>
    ⟨name ++ "& ", "operator=(const " ++ name ++ "& other)",
      name ++ "& " ++ name ++ "::operator=(const " ++ name ++ "& other)", []⟩
  | moveAssignment =>
    ⟨name ++ "& ", "operator=(" ++ name ++ "&& other) noexcept",
      name ++ "& " ++ name ++ "::operator=(" ++ name ++ "&& other) noexcept", []⟩

/-- The members of a class in the order of the request; a class without a name has none. -/
def write (members : List SpecialMember) (name : Text) (p : Placement) (indent : Text) :
    List GeneratedFunction :=
  if name.isEmpty then []
  else members.map fun m => ((m.parts name).render p).indented indent

end SpecialMember
end Classwright
