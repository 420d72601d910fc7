import Classwright.Text.Utf8
/-!
# Paths

A path is written as names between slashes; a leading slash makes it absolute. Its components leave
out empty names and `.`, save for a `.` in front of a relative path. A name is any sequence of
bytes, read as characters where it can be.
-/
namespace Classwright

abbrev FileName := List Unit8

structure Path where
  units : List Unit8
deriving DecidableEq

inductive Component where
  | root
  | current
  | parent
  | name (n : FileName)
deriving DecidableEq

namespace Path

def ofText (t : Text) : Path := ⟨t.toUnits⟩

/-- The path as a text, when it is one. -/
def text? (p : Path) : Option Text := Classwright.text? p.units

def shown (p : Path) : Text := lossyText p.units

/-- The unit that separates names. -/
def slash : Unit8 := .char '/'

def dot : FileName := [.char '.']

def dotDot : FileName := [.char '.', .char '.']

def isAbsolute (p : Path) : Bool := p.units.head? == some slash

/-- Pieces between slashes; never empty. -/
def splitSlashes : List Unit8 → List FileName
  | [] => [[]]
  | u :: rest =>
    if u = slash then [] :: splitSlashes rest
    else match splitSlashes rest with
      | [] => [[u]]
      | piece :: pieces => (u :: piece) :: pieces

/-- Pieces with slashes between them. -/
def joinSlashes : List FileName → List Unit8
  | [] => []
  | [piece] => piece
  | piece :: pieces => piece ++ slash :: joinSlashes pieces

/-- The pieces after the leading slash of an absolute path, or all pieces of a relative one. -/
def pieces (p : Path) : List FileName :=
  splitSlashes (if p.isAbsolute then p.units.drop 1 else p.units)

/-! ## Components -/

/-- The component of a piece that is not at the start of a relative path. -/
def component? (piece : FileName) : Option Component :=
  if piece = [] ∨ piece = dot then none
  else if piece = dotDot then some .parent
  else some (.name piece)

/-- The component of the first piece of a relative path, where `.` counts. -/
def firstComponent? (piece : FileName) : Option Component :=
  if piece = dot then some .current else component? piece

/-- The components in their order. -/
def components (p : Path) : List Component :=
  if p.isAbsolute then .root :: p.pieces.filterMap component?
  else match p.pieces with
    | [] => []
    | first :: rest => (firstComponent? first).toList ++ rest.filterMap component?

/-- The text of a component between slashes. -/
def piece : Component → FileName
  | .root => []
  | .current => dot
  | .parent => dotDot
  | .name n => n

/-- The plain path with these components. -/
def ofComponents : List Component → Path
  | .root :: rest => ⟨slash :: joinSlashes (rest.map piece)⟩
  | comps => ⟨joinSlashes (comps.map piece)⟩

/-! ## Putting paths together -/

/-- A path inside a directory; an absolute path stays what it is. -/
def join (dir p : Path) : Path :=
  if p.isAbsolute then p
  else if dir.units.isEmpty || dir.units.getLast? == some slash then ⟨dir.units ++ p.units⟩
  else ⟨dir.units ++ slash :: p.units⟩

/-! ## The parent and the last name

Reading from the end, empty pieces and `.` are skipped, save for a `.` that begins a relative
path. -/

/-- Pieces from the end without those that are no component. The last one of a relative path, which
is its first piece, may be a `.`. -/
def skipSilent (absolute : Bool) : List FileName → List FileName
  | [] => []
  | p :: rest =>
    if p = [] ∨ (p = dot ∧ (absolute ∨ rest ≠ [])) then skipSilent absolute rest else p :: rest

/-- The pieces from the end, the last component first. -/
def backwards (p : Path) : List FileName := skipSilent p.isAbsolute p.pieces.reverse

/-- The path without its last component, cut from the written form. The root and the empty path
have no parent. -/
def parent? (p : Path) : Option Path :=
  match p.backwards with
  | [] => none
  | _ :: rest =>
    let kept := joinSlashes (skipSilent p.isAbsolute rest).reverse
    some ⟨if p.isAbsolute then slash :: kept else kept⟩

/-- The last component, when it is a name. -/
def fileName? (p : Path) : Option FileName :=
  match p.backwards with
  | [] => none
  | last :: _ => if last = dot ∨ last = dotDot then none else some last

def cutLastDot? : FileName → Option (FileName × FileName)
  | [] => none
  | u :: rest =>
    match cutLastDot? rest with
    | some (before, after) => some (u :: before, after)
    | none => if u = .char '.' then some ([], rest) else none

/-- A name split at its last dot; a dot in front splits nothing. -/
def splitExtension (n : FileName) : FileName × Option FileName :=
  match cutLastDot? n with
  | some (before, after) => if before = [] then (n, none) else (before, some after)
  | none => (n, none)

/-- The last name without its extension, as text. -/
def stem? (p : Path) : Option Text := do
  Classwright.text? (splitExtension (← p.fileName?)).1

/-- The extension of the last name, as text, without the dot. -/
def extension? (p : Path) : Option Text := do
  Classwright.text? (← (splitExtension (← p.fileName?)).2)

def fileNameText? (p : Path) : Option Text := do Classwright.text? (← p.fileName?)

/-- The path with another last name; a path without a name gets one. -/
def withFileName (p : Path) (name : Text) : Path :=
  match p.fileName?, p.parent? with
  | some _, some dir => dir.join (ofText name)
  | _, _ => p.join (ofText name)

/-! ## Normal form -/

/-- One component more of a normal form, of which `built` are the components so far, the last one
first. A parent takes back a name, and stays where there is none. -/
def normalStep (built : List Component) : Component → List Component
  | .current => built
  | .parent =>
    match built with
    | .name _ :: rest => rest
    | _ => .parent :: built
  | c => c :: built

/-- The components without `.`, each `..` resolved against the name before it. -/
def normalComponents (cs : List Component) : List Component := (cs.foldl normalStep []).reverse

/-- The normal form of a path, found without looking at files. -/
def normalize (p : Path) : Path := ofComponents (normalComponents p.components)

end Path
end Classwright
