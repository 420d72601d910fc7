import Classwright.Hover
import Classwright.Signature.Declaration
/-!
# Function signatures

A function that a hover describes, and its two written forms: the definition outside the class with
an empty body, and the declaration inside. The title of the hover names its kind by a keyword. The
keywords are tried in a fixed order, so `class` stands for the destructor only where no keyword for
a method is in the title.
-/
namespace Classwright

/-- What a hover describes. -/
inductive SignatureKind where
  | constructor
  | destructor
  | staticMethod
  | method
  | freeFunction
  | unknown
deriving DecidableEq

namespace SignatureKind

/-- The keyword of each kind, in the order in which they are tried. -/
def keywords : List (Text × SignatureKind) :=
  [("constructor", constructor), ("static-method", staticMethod), ("instance-method", method),
    ("class", destructor), ("function", freeFunction)]

/-- The kind whose keyword comes first in the order among those in the title. -/
def classify (title : Text) : SignatureKind :=
  match keywords.find? fun (key, _) => title.has key with
  | some (_, kind) => kind
  | none => unknown

end SignatureKind

/-- A function-like entity. -/
structure Signature where
  kind : SignatureKind
  returnType : Text
  functionName : Text
  className : Text
  namespaceName : Text
  /-- The name, the parameters and the qualifiers after them. -/
  main : Text
deriving DecidableEq

namespace Signature

/-- A body without statements. -/
def emptyBody : Text := "\n\x7b\n\x7d\n"

/-- The function that a hover describes. There is none when the title names no kind, quotes no name,
or no declaration is found in the code; the code may declare a constructor under the name of the
class instead of the quoted one. -/
def ofHover? (h : Hover) : Option Signature := do
  let kind := SignatureKind.classify h.title
  if kind = .unknown then none
  let name ← h.entity
  let code ← h.code
  let className := h.className.getD []
  match kind with
  | .constructor =>
    let main ← (Declaration.functionMain code name).or (Declaration.functionMain code className)
    return ⟨kind, [], name, className, [], main⟩
  | .staticMethod | .method =>
    let type ← Declaration.returnType code name
    let main ← Declaration.functionMain code name
    return ⟨kind, type, name, className, [], main⟩
  | .destructor => return ⟨kind, "void", name, name.dropWhile (· == '~'), [], []⟩
  | .freeFunction =>
    let type ← Declaration.returnType code name
    let main ← Declaration.functionMain code name
    return ⟨kind, type, name, [], h.namespaceName.getD [], main⟩
  | .unknown => none

/-- A text after the return type, which may be missing. -/
def typed (type rest : Text) : Text := if type.isEmpty then rest else type ++ ' ' :: rest

/-- A name in its scope. -/
def inScope (scope rest : Text) : Text := scope ++ "::" ++ rest

/-- First line of the definition. -/
def head (s : Signature) : Text :=
  match s.kind with
  | .constructor => inScope s.className s.main
  | .destructor => inScope s.className ('~' :: s.className ++ "()")
  | .staticMethod | .method => typed s.returnType (inScope s.className s.main)
  | .freeFunction =>
    typed s.returnType (if s.namespaceName.isEmpty then s.main else inScope s.namespaceName s.main)
  | .unknown => []

/-- Definition outside the class, with an empty body. -/
def definition (s : Signature) : Text :=
  if s.kind = .unknown then [] else s.head ++ emptyBody

/-- Declaration inside the class or namespace. -/
def declaration (s : Signature) : Text :=
  match s.kind with
  | .constructor => s.main ++ ";"
  | .destructor => '~' :: s.className ++ "();"
  | .staticMethod => "static " ++ typed s.returnType s.main ++ ";"
  | .method | .freeFunction => typed s.returnType s.main ++ ";"
  | .unknown => []

/-- The definition of the function that a hover describes, or nothing. -/
def definitionOfHover (h : Hover) : Text := ((ofHover? h).map definition).getD []

end Signature
end Classwright
