import Classwright.FileTree
import Classwright.Json.Basic
import Classwright.Json.Decode
import Classwright.Json.Reader
import Classwright.Pattern.Replace
import Classwright.Text.Quoted
/-!
# Rewriting a compilation database

A compilation database is a JSON array whose entries hold the command of each source file. Rules
strip the commands of what a tool does not understand: each rule replaces the first match of its
pattern, one rule after the other. All rules are checked and the whole database is read before
anything is written, so a fault leaves the files as they are.
-/
namespace Classwright

/-- Replace the first match of a pattern. -/
structure StripRule where
  pattern : Text
  replacement : Text
deriving DecidableEq

open Fields in
/-- A rule as it is given; without a replacement the match is removed. -/
def StripRule.decode : Decoder StripRule :=
  record (StripRule.mk <$> required "match" Json.asText <*> withDefault "replace" Json.asText [])

/-- Why a database cannot be rewritten. -/
inductive StripError where
  | file (path : Path) (error : FileError)
  | notJson (path : Path)
  | badPattern (pattern : Text)
  | notArray (path : Path)

/-- The wording of a fault. -/
def StripError.message : StripError → Text
  | file path e => path.shown ++ ": " ++ e.message
  | notJson path => path.shown ++ " is not valid JSON"
  | badPattern pattern => "invalid strip pattern " ++ pattern.quoted
  | notArray path => path.shown ++ " is not a compilation database array"

/-- A fault that comes from another one below it. -/
def StripError.hasCause : StripError → Bool
  | notArray _ => false
  | _ => true

namespace CompileDatabase

def fileName : Text := "compile_commands.json"

/-! ## Directories -/

/-- Stands for the root of the workspace in a directory, in any case. -/
def rootPlaceholder : Text := "$\x7bworkspacefolder\x7d"

/-- The text behind a marker that it starts with up to case. The marker is folded. -/
def stripFolded? : Text → Text → Option Text
  | t, [] => some t
  | [], _ :: _ => none
  | c :: cs, m :: ms => if m = foldChar c then stripFolded? cs ms else none

/-- Every placeholder replaced, after `skip` characters that belong to one. -/
def fillAfter (root : Text) : Nat → Text → Text
  | _, [] => []
  | skip + 1, _ :: rest => fillAfter root skip rest
  | 0, c :: rest =>
    match stripFolded? (c :: rest) rootPlaceholder with
    | some _ => root ++ fillAfter root (rootPlaceholder.length - 1) rest
    | none => c :: fillAfter root 0 rest

def directory (setting : Text) (root : Path) : Path := .ofText (fillAfter root.shown 0 setting)

def inDirectory (setting : Text) (root : Path) : Path :=
  (directory setting root).join (.ofText fileName)

/-! ## Commands -/

structure ReadRule where
  pattern : Matcher
  replacement : Text

/-- Read the patterns of all rules. The first one that is no pattern is at fault. -/
def readRules : List StripRule → Except StripError (List ReadRule)
  | [] => .ok []
  | r :: rest => do
    match Matcher.read? r.pattern with
    | none => throw (.badPattern r.pattern)
    | some p => return ⟨p, r.replacement⟩ :: (← readRules rest)

def ReadRule.apply (command : Text) (r : ReadRule) : Text :=
  r.pattern.replaceFirst command r.replacement

/-- A command after all rules, from the first to the last. -/
def stripCommand (rules : List ReadRule) (command : Text) : Text :=
  rules.foldl ReadRule.apply command

def commandKey : Text := "command"

def command? (entry : Json) : Option Text := (entry.get? commandKey).bind Json.text?

/-- An entry after all rules. Only a command that is a text is touched. -/
def stripEntry (rules : List ReadRule) (entry : Json) : Json :=
  match entry, command? entry with
  | .obj fields, some command =>
    .obj (Json.setField commandKey (.str (stripCommand rules command)) fields)
  | _, _ => entry

def isChanged (rules : List ReadRule) (entry : Json) : Bool :=
  (command? entry).any fun command => stripCommand rules command != command

/-- There is nothing in the file. -/
def isEmptyFile (data : Text) : Bool := data.isEmpty || data == ['\n']

/-- Rewrite the text of a database, read from a path: the new text, and how many commands
changed. -/
def stripText (path : Path) (rules : List StripRule) (data : Text) :
    Except StripError (Text × Nat) := do
  let rules ← readRules rules
  match Json.read? data with
  | none => throw (.notJson path)
  | some (.arr entries) =>
    return ((Json.arr (entries.map (stripEntry rules))).write, entries.countP (isChanged rules))
  | some _ => throw (.notArray path)

/-- Rewrite a database into another file, which may be the same. An empty database is left alone.
Gives the files after that, and how many commands changed. -/
def strip (tree : FileTree) (source target : Path) (rules : List StripRule) :
    Except StripError (FileTree × Nat) := do
  let data ← (tree.read source).mapError (StripError.file source)
  if isEmptyFile data then return (tree, 0)
  let (text, changed) ← stripText source rules data
  let tree ← (tree.write target text).mapError (StripError.file target)
  return (tree, changed)

end CompileDatabase
end Classwright
