import Classwright.Hover
import Classwright.Position
/-!
# Data members

What has to be known of a data member to write accessors for it. The hover gives its name, type and
class; the syntax node of its declaration tells whether its type is a built-in one.
-/
namespace Classwright

structure SyntaxNode where
  kind : Text
  range : Option Range
  children : List SyntaxNode

/-- The first child is a built-in type. -/
def SyntaxNode.hasBuiltinType (n : SyntaxNode) : Bool :=
  match n.children with
  | first :: _ => first.kind == "Builtin"
  | [] => false

/-- A data member. Facts that are not known are empty. -/
structure Member where
  type : Text
  /-- The name without the prefix of data members. -/
  canonicalName : Text
  /-- The name as it is declared. -/
  declaredName : Text
  className : Text
  /-- Values of the type are passed by value. -/
  isBuiltin : Bool
deriving DecidableEq

namespace Member

def usualPrefix : Text := "m_"

/-- Types that always count as built-in. -/
def builtinTypes : List Text := ["std::size_t"]

/-- A member of which nothing is known. -/
def unknown : Member := ⟨[], [], [], [], false⟩

/-- The name without its prefix, unless nothing else is left of it. -/
def canonical (name mark : Text) : Text :=
  match name.stripStart? mark with
  | some rest => if mark.isEmpty || rest.isEmpty then name else rest
  | none => name

/-- The type is passed by value: the syntax tree says so, or it is one of the known types or of the
given ones. -/
def isBuiltinType (node : Option SyntaxNode) (more : List Text) (type : Text) : Bool :=
  (node.map SyntaxNode.hasBuiltinType).getD false || builtinTypes.contains type ||
    more.contains type

/-- The member that a hover describes; nothing is known of it unless the title says that it is a
field. -/
def ofHover (h : Hover) (node : Option SyntaxNode) (builtins : List Text) (mark : Text) : Member :=
  if h.titleHas "field" then
    let name := h.entity.getD []
    let type := h.typeField.getD []
    { type
      canonicalName := canonical name mark
      declaredName := name
      className := h.className.getD []
      isBuiltin := isBuiltinType node builtins type }
  else unknown

/-- Type and name are known, so accessors can be written. -/
def isComplete (m : Member) : Bool := !m.type.isEmpty && !m.canonicalName.isEmpty

end Member
end Classwright
