import Classwright.Path.Basic
/-!
# A tree of files

The files that the library reads and writes, as a value: directories with sorted entries, and files
with their text. A path is walked step by step, from the root or from the working directory; each step
through something that is no directory fails, and so does a name that is not there.
-/
namespace Classwright

/-- A file or a directory. A file whose bytes are no UTF-8 has no text. -/
inductive FileNode where
  | file (text : Option Text)
  | dir (entries : List (FileName × FileNode))

/-- Why a file cannot be read or written. -/
inductive FileError where
  | notFound
  | notDirectory
  | isDirectory
  | nameTooLong
  | zeroByte
  | notText
deriving DecidableEq

def FileError.message : FileError → Text
  | notFound => "No such file or directory (os error 2)"
  | notDirectory => "Not a directory (os error 20)"
  | isDirectory => "Is a directory (os error 21)"
  | nameTooLong => "File name too long (os error 36)"
  | zeroByte => "file name contained an unexpected NUL byte"
  | notText => "stream did not contain valid UTF-8"

/-- The bytes of a name, by which names are ordered. -/
def FileName.bytes (n : FileName) : List UInt8 := n.flatMap Unit8.bytes

namespace FileNode

/-- An entry of a directory. -/
def child? (name : FileName) : FileNode → Option FileNode
  | file _ => none
  | dir entries => entries.lookup name

def isFile : FileNode → Bool
  | file _ => true
  | dir _ => false

/-- Set an entry of a sorted directory. -/
def setEntry (name : FileName) (node : FileNode) :
    List (FileName × FileNode) → List (FileName × FileNode)
  | [] => [(name, node)]
  | (n, old) :: rest =>
    if name = n then (name, node) :: rest
    else if name.bytes < n.bytes then (name, node) :: (n, old) :: rest
    else (n, old) :: setEntry name node rest

/-- The node below some names. -/
def descend : FileNode → List FileName → Option FileNode
  | node, [] => some node
  | node, name :: rest =>
    match node.child? name with
    | some next => descend next rest
    | none => none

/-- The entries of a directory; a file has none. -/
def entries : FileNode → List (FileName × FileNode)
  | file _ => []
  | dir es => es

/-- The tree with the node at some names replaced. -/
def put (node : FileNode) (new : FileNode) : List FileName → FileNode
  | [] => new
  | name :: rest =>
    .dir (setEntry name (put ((node.child? name).getD (.dir [])) new rest) node.entries)

end FileNode

/-- A tree of files, from its root directory, with the directory in which relative paths begin. -/
structure FileTree where
  root : FileNode
  /-- The names that lead to the working directory. -/
  working : List FileName := []

namespace FileTree

/-- Longest name in bytes. -/
def maxName : Nat := 255

/-- Longest path in bytes. -/
def maxPath : Nat := 4095

/-- Walk some pieces of a path from the names walked so far, the last one first. -/
def walk (tree : FileTree) (here : List FileName) : List FileName → Except FileError (List FileName)
  | [] => .ok here
  | piece :: rest =>
    match tree.root.descend here.reverse with
    | some (.dir entries) =>
      if piece = [] ∨ piece = Path.dot then walk tree here rest
      else if piece = Path.dotDot then walk tree here.tail rest
      else if maxName < piece.bytes.length then .error .nameTooLong
      else match entries.lookup piece with
        | some _ => walk tree (piece :: here) rest
        | none => .error .notFound
    | some (.file _) => .error .notDirectory
    | none => .error .notFound

/-- A path that can name a file at all. -/
def checkPath (p : Path) : Except FileError Unit :=
  if p.units.contains (.char '\x00') then .error .zeroByte
  else if p.units.isEmpty then .error .notFound
  else if maxPath < (FileName.bytes p.units).length then .error .nameTooLong
  else .ok ()

/-- The names walked so far at the start of a path: none of an absolute one, and those of the working
directory of a relative one. -/
def start (tree : FileTree) (p : Path) : List FileName :=
  if p.isAbsolute then [] else tree.working.reverse

/-- The names from the root to what a path leads to. -/
def resolve (tree : FileTree) (p : Path) : Except FileError (List FileName) := do
  checkPath p
  let names ← tree.walk (tree.start p) p.pieces
  return names.reverse

def node (tree : FileTree) (p : Path) : Except FileError FileNode := do
  let names ← tree.resolve p
  match tree.root.descend names with
  | some n => return n
  | none => throw .notFound

/-- The path leads to something. -/
def pathExists (tree : FileTree) (p : Path) : Bool := (tree.node p).isOk

def isFile (tree : FileTree) (p : Path) : Bool :=
  match tree.node p with
  | .ok n => n.isFile
  | .error _ => false

def read (tree : FileTree) (p : Path) : Except FileError Text := do
  match ← tree.node p with
  | .dir _ => throw .isDirectory
  | .file none => throw .notText
  | .file (some t) => return t

/-- The tree in which a file has a text. The file is made when its directory is there; slashes
behind its name ask for a directory. -/
def write (tree : FileTree) (p : Path) (t : Text) : Except FileError FileTree := do
  checkPath p
  match p.pieces.reverse.dropWhile (· = []) with
  | [] => throw .isDirectory
  | last :: before =>
    let here ← tree.walk (tree.start p) before.reverse
    match tree.root.descend here.reverse with
    | some (.dir entries) =>
      if last = Path.dot ∨ last = Path.dotDot ∨ p.pieces.getLast? = some [] then throw .isDirectory
      else if maxName < (FileName.bytes last).length then throw .nameTooLong
      else match entries.lookup last with
        | some (.dir _) => throw .isDirectory
        | _ => return { tree with root := tree.root.put (.file (some t)) (last :: here).reverse }
    | some (.file _) => throw .notDirectory
    | none => throw .notFound

end FileTree
end Classwright
