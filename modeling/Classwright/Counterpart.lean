import Classwright.FileTree
/-!
# Headers and their sources

Which extensions belong to headers, which source belongs to a header, and the search for the other
file of a pair: first beside the file, then in the workspace, where the file nearest in the tree of
directories wins.
-/
namespace Classwright

/-- Extensions of headers and of the sources that belong to them, each with its dot. -/
structure ExtensionMapping where
  name : Text
  header : List Text
  source : List Text
deriving DecidableEq

namespace ExtensionMapping

/-- The mappings when none are given. -/
def usual : List ExtensionMapping :=
  [⟨"C++", [".h", ".hpp", ".hh", ".hxx"], [".cpp", ".cc", ".cxx", ".c"]⟩]

/-- The other side of an extension that the mapping lists. -/
def counterparts? (extension : Text) (m : ExtensionMapping) : Option (List Text) :=
  if m.header.contains extension then some m.source
  else if m.source.contains extension then some m.header
  else none

end ExtensionMapping

/-- The other side of an extension in the first mapping that lists it. -/
def counterpartExtensions (extension : Text) (ms : List ExtensionMapping) : Option (List Text) :=
  ms.findSome? (·.counterparts? extension)

/-- Extensions of headers, without their dots. -/
def headerExtensions : List Text := ["h", "hpp", "h++", "hh"]

def sourceExtensionFor (extension : Text) : Text :=
  if extension = ".h" then ".c" else ".cpp"

namespace Path

def isHeader (p : Path) : Bool := p.extension?.any headerExtensions.contains

/-- The source for the functions that a header declares. -/
def implementationTarget? (p : Path) : Option Path := do
  if !p.isHeader then none
  let extension ← p.extension?
  let stem ← p.stem?
  return p.withFileName (stem ++ sourceExtensionFor ('.' :: extension))

/-- The number of components by which a directory and a file differ. -/
def treeDistance : List Component → List Component → Nat
  | a :: as, b :: bs => if a = b then treeDistance as bs else (as.length + 1) + (bs.length + 1)
  | as, bs => as.length + bs.length

end Path

namespace Counterpart

/-- Directories that hold no sources. -/
def skippedNames : List Text := ["build", "out", "bin", "obj", "node_modules", "target"]

/-- The search goes into a directory with this name. -/
def isSearched (name : FileName) : Bool :=
  match text? name with
  | none => false
  | some t => !t.startsWith "." && !skippedNames.contains t

mutual
/-- The files at and below a node, depth first in the order of names, each with its path. -/
def filesBelow (path : Path) : FileNode → List Path
  | .file _ => [path]
  | .dir entries => filesIn path entries

/-- The files below the entries of a directory. -/
def filesIn (path : Path) : List (FileName × FileNode) → List Path
  | [] => []
  | (name, node) :: rest =>
    (if node.isFile || isSearched name then filesBelow (path.join ⟨name⟩) node else []) ++
      filesIn path rest
end

/-- The files of a workspace root; a root that is not there has none. -/
def filesOfRoot (tree : FileTree) (root : Path) : List Path :=
  match tree.node root with
  | .ok node => filesBelow root node
  | .error _ => []

/-- The name of a file, or all of its path when that does not end in a name. -/
def lastName (p : Path) : FileName := p.fileName?.getD p.units

/-- The nearer of the best file so far and one more; a tie keeps the first. -/
def nearer (origin : Path) (best : Option Path) (p : Path) : Option Path :=
  match best with
  | none => some p
  | some b =>
    if Path.treeDistance origin.components p.components <
        Path.treeDistance origin.components b.components then some p
    else some b

/-- The other file of a pair: the first counterpart that is a file beside the path, or else the file
with a counterpart's name that is nearest in the tree. -/
def find? (tree : FileTree) (p : Path) (ms : List ExtensionMapping) (roots : List Path) :
    Option Path := do
  let extension ← p.extension?
  let stem ← p.stem?
  let extensions ← counterpartExtensions ('.' :: extension) ms
  let names := extensions.map (stem ++ ·)
  let dir ← p.parent?
  match (names.map fun n => dir.join (.ofText n)).find? tree.isFile with
  | some sibling => return sibling
  | none =>
    let candidates := (roots.flatMap (filesOfRoot tree)).filter fun f =>
      (Classwright.text? (lastName f)).any names.contains
    candidates.foldl (nearer dir) none

end Counterpart
end Classwright
