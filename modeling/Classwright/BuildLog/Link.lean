import Classwright.BuildLog.Message
import Classwright.FileTree
import Classwright.Position
import Classwright.Url.Basic
/-!
# Links in a build log

The location of a line, as written and as condensed, links to the place in the file that it names,
when that file is there.
-/
namespace Classwright

/-- A range of a document that leads to a place in a file. -/
structure Link where
  range : Range
  target : Url
deriving DecidableEq

namespace Link

/-- What lines with a location begin with. -/
def linePrefixes : List Text :=
  [BuildMessage.linePrefix, BuildMessage.mark .error, BuildMessage.mark .warning]

/-- The beginning of a line that is one of these, and the rest of the line. -/
def message? (line : Text) : Option (Text × Text) :=
  linePrefixes.findSome? fun p => (line.stripStart? p).map (p, ·)

/-- Line and column as the fragment of a URL. -/
def place (l : Location) : Text := natText l.line ++ "," ++ natText l.column

def onLine? (tree : FileTree) (root : Path) (number : Nat) (line : Text) : Option Link := do
  let (start, message) ← message? line
  let location ← Location.ofMessage? message
  let path := Location.resolve location.path root
  if !tree.isFile path then none
  let target ← Url.ofFilePath? path
  let first := start.units
  let last := first + location.text.units
  return ⟨⟨.ofCounts number first, .ofCounts number last⟩, target.withFragment (place location)⟩

def onLines (tree : FileTree) (root : Path) : Nat → List Text → List Link
  | _, [] => []
  | n, line :: rest => (onLine? tree root n line).toList ++ onLines tree root (n + 1) rest

def inLog (tree : FileTree) (root : Path) (t : Text) : List Link := onLines tree root 0 t.lines

end Link
end Classwright
