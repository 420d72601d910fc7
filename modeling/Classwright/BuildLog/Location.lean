import Classwright.Number.Digits
import Classwright.Path.Basic
import Classwright.Text.Numeric
/-!
# Locations in compiler messages

A message begins with `path:line:column` or `path(line)`. Of both forms the shortest possible path
is taken, and the first form is tried first. The path is then resolved against the root of the
workspace.
-/
namespace Classwright

/-- A place in a source file, as a message names it. -/
structure Location where
  /-- The whole written form. -/
  text : Text
  path : Text
  line : Nat
  column : Nat
deriving DecidableEq

namespace Location

/-- The shortest start of a text, without a line feed, behind which something is read. -/
def shortest? (read : Text → Option α) : Text → Option (Text × α)
  | [] => (read []).map ([], ·)
  | c :: rest =>
    match read (c :: rest) with
    | some a => some ([], a)
    | none =>
      if c = '\n' then none
      else (shortest? read rest).map fun (before, a) => (c :: before, a)

/-- A run of decimal digits of any script, and the text behind it. -/
def digits? (t : Text) : Option (Text × Text) :=
  let run : Text := t.takeWhile isDecimalDigit
  if run.isEmpty then none else some (run, t.dropWhile isDecimalDigit)

/-- The digits of `:line:column`. -/
def colonPlace? (t : Text) : Option (Text × Text) := do
  let (line, rest) ← digits? (← t.stripStart? ":")
  let (column, _) ← digits? (← rest.stripStart? ":")
  return (line, column)

/-- The digits of `(line)`. -/
def bracketPlace? (t : Text) : Option Text := do
  let (line, rest) ← digits? (← t.stripStart? "(")
  if rest.startsWith ")" then some line else none

/-- A line or column; its digits have to be ASCII and its value below `2 ^ 32`. -/
def number? (digits : Text) : Option Nat := natBelow? (twoTo 32) digits

/-- The location at the start of a message. A line or column that is no number leaves the message
without a location, also when it could be read in the other form. -/
def ofMessage? (message : Text) : Option Location :=
  match shortest? colonPlace? message with
  | some (path, line, column) => do
    return ⟨path ++ ':' :: line ++ ':' :: column, path, ← number? line, ← number? column⟩
  | none => do
    let (path, line) ← shortest? bracketPlace? message
    return ⟨path ++ '(' :: line ++ ")", path, ← number? line, 1⟩

/-! ## Paths of the build -/

/-- The first `/./` of a path as one slash, and the first of the same with backslashes too. -/
def collapseCurrent (path : Text) : Text :=
  (path.replaceFirst "/./" "/").replaceFirst "\\.\\" "\\"

/-- A letter, a colon and a slash of either kind: a path of a drive. -/
def hasDrive (t : Text) : Bool :=
  match t with
  | letter :: ':' :: sep :: _ => letter.isAlpha && (sep == '/' || sep == '\\')
  | _ => false

/-- The part of a relative path behind its last `./`, or else behind its last `.\`: what comes
before leads from the directory of the build to the workspace. -/
def inWorkspace (path : Text) : Text :=
  match (path.cutLast? "./").or (path.cutLast? ".\\") with
  | some (_, rest) => rest
  | none => path

/-- The path of a file that the build names. -/
def resolve (raw : Text) (root : Path) : Path :=
  let path := collapseCurrent raw.trim
  if path.startsWith "/" || hasDrive path then (Path.ofText path).normalize
  else (root.join (.ofText (inWorkspace path))).normalize

end Location
end Classwright
