import Classwright.Command.Basic
import Classwright.Generated.Accessor
import Classwright.Generated.SpecialMember
/-!
# Functions to be inserted

Requests for accessors of a data member and for special members of a class, and the insertion that
answers them: the class, the place in it, and the functions.
-/
namespace Classwright

/-- Functions for a class: where their declarations go, and the source for their definitions. -/
structure Insertion where
  className : Text
  insertAt : Position
  functions : List GeneratedFunction
  source : Option Url

namespace Insertion

/-- The source file that a definition outside the header goes to. -/
def sourceUrl? (u : Url) : Placement → Option Url
  | .inHeader => none
  | .inSource => do
    let header ← u.filePath?
    Url.ofFilePath? (← header.implementationTarget?)

/-- The insertion of functions into a class of a document, which are written with the indentation
of its members. -/
def intoClass (d : Document) (c : ClassSymbol) (source : Option Url)
    (write : Text → List GeneratedFunction) : Insertion :=
  let text := d.textIn c.range
  let publicPart := PublicSection.ofClass c text
  { className := c.name
    insertAt := publicPart.insertionPoint (PublicSection.bodyStart c text)
    functions := write publicPart.indent
    source }

end Insertion

structure AccessorRequest where
  url : Url
  hover : Hover
  node : Option SyntaxNode
  symbols : List Symbol
  /-- Where the member is, when the syntax node does not say. -/
  range : Option Range
  option : Option Text

namespace AccessorRequest

def member (r : AccessorRequest) (s : Settings) : Member :=
  .ofHover r.hover r.node s.extBuiltinTypes s.memberPrefix

def memberRange (r : AccessorRequest) : Option Range := (r.node.bind (·.range)).or r.range

/-- The class around the member. -/
def enclosingClass (r : AccessorRequest) : Option ClassSymbol :=
  r.memberRange.bind (ClassSymbol.locate (ClassSymbol.inForest r.symbols))

def labels (r : AccessorRequest) (s : Settings) : List Text :=
  match r.enclosingClass with
  | some c => ((r.member s).accessorOptions c).map (·.label)
  | none => []

/-- The accessors of the chosen option. There is nothing to insert without a class around the
member, or when the hover does not describe a member. -/
def insertion (r : AccessorRequest) (w : Workspace) : Except CommandFault (Option Insertion) := do
  let label := r.option.getD []
  match AccessorOption.ofLabel? label with
  | none => throw (.badArgument (.unknownOption label))
  | some o =>
    match r.enclosingClass with
    | none => return none
    | some c =>
      let d ← w.load r.url
      let i := Insertion.intoClass d c (Insertion.sourceUrl? r.url o.placement)
        ((r.member w.settings).writeAccessors o)
      return if i.functions.isEmpty then none else some i

end AccessorRequest

structure SpecialMemberRequest where
  url : Url
  symbols : List Symbol
  position : Position
  options : List Text
  /-- Without it the functions are written in the header. -/
  inHeader : Option Bool

namespace SpecialMemberRequest

/-- The special members with some labels. The first label that is unknown is at fault. -/
def membersOf : List Text → Except CommandFault (List SpecialMember)
  | [] => .ok []
  | label :: rest => do
    match SpecialMember.ofLabel? label with
    | none => throw (.badArgument (.unknownOption label))
    | some m => return m :: (← membersOf rest)

/-- The class around the position; a class without a name does not count. -/
def enclosingClass (r : SpecialMemberRequest) : Option ClassSymbol :=
  (ClassSymbol.locateAt (ClassSymbol.inForest r.symbols) r.position).filter (!·.name.isEmpty)

def placement (r : SpecialMemberRequest) : Placement :=
  if r.inHeader.getD true then .inHeader else .inSource

/-- The chosen special members; there is nothing to insert without a class. -/
def insertion (r : SpecialMemberRequest) (w : Workspace) :
    Except CommandFault (Option Insertion) := do
  let members ← membersOf r.options
  match r.enclosingClass with
  | none => return none
  | some c =>
    let d ← w.load r.url
    return some (Insertion.intoClass d c (Insertion.sourceUrl? r.url r.placement)
      (SpecialMember.write members c.name r.placement))

end SpecialMemberRequest
end Classwright
