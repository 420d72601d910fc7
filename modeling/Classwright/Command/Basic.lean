import Classwright.Document.Basic
import Classwright.Settings.Basic
/-!
# Commands

The commands that an editor can run, what they see of the workspace, and what can be wrong with a
request.
-/
namespace Classwright

inductive Command where
  | createFuncImpl
  | getterSetterOptions
  | createGetterSetter
  | specialMemberOptions
  | createSpecialMember
  | createHeaderGuard
  | amendHeaderGuard
  | createClass
  | createUnitTest
  | insertRegion
  | switchHeaderSource
  | stripCompileCommands
  | beautifyBuildOutput
deriving DecidableEq

namespace Command

/-- All commands, in the order in which they are announced. -/
def all : List Command :=
  [createFuncImpl, getterSetterOptions, createGetterSetter, specialMemberOptions,
    createSpecialMember, createHeaderGuard, amendHeaderGuard, createClass, createUnitTest,
    insertRegion, switchHeaderSource, stripCompileCommands, beautifyBuildOutput]

/-- Name of a command without the section that all commands share. -/
def shortName : Command → Text
  | createFuncImpl => "createFuncImpl"
  | getterSetterOptions => "getterSetterOptions"
  | createGetterSetter => "createGetterSetter"
  | specialMemberOptions => "specialMemberOptions"
  | createSpecialMember => "createSpecialMember"
  | createHeaderGuard => "createHeaderGuard"
  | amendHeaderGuard => "amendHeaderGuard"
  | createClass => "createClass"
  | createUnitTest => "createUnitTest"
  | insertRegion => "insertRegion"
  | switchHeaderSource => "switchHeaderSource"
  | stripCompileCommands => "stripCompileCommands"
  | beautifyBuildOutput => "beautifyBuildOutput"

def name (c : Command) : Text := "cpphelper." ++ c.shortName

def ofName? (t : Text) : Option Command := all.find? (·.name == t)

end Command

/-! ## Faults -/

inductive ArgumentFault where
  | unreadable (error : DecodeError)
  | emptyClassName
  | emptyFileName
  | unknownOption (label : Text)
  | notFile (url : Url)

/-- The wording of a fault; a value of a wrong kind is not described any closer. -/
def ArgumentFault.message : ArgumentFault → Text
  | unreadable (.missingField name) => "missing field \x60" ++ name ++ "\x60"
  | unreadable .badValue => "<bad value>"
  | emptyClassName => "className is empty"
  | emptyFileName => "fileName is empty"
  | unknownOption label => "unknown option '" ++ label ++ "'"
  | notFile url => '\'' :: url.text ++ "' is not a file URI"

/-- Why a command fails. -/
inductive CommandFault where
  | unknownCommand
  | badArgument (fault : ArgumentFault)
  | unreadableFile (path : Path) (error : FileError)
  | notStripped (error : StripError)

def CommandFault.message (command : Text) : CommandFault → Text
  | unknownCommand => "unknown command '" ++ command ++ "'"
  | badArgument fault => "invalid arguments for '" ++ command ++ "': " ++ fault.message
  | unreadableFile path e => "failed to read " ++ path.shown ++ ": " ++ e.message
  | notStripped e => e.message

/-! ## The workspace -/

/-- What commands see: settings, open documents, the roots of the workspace and the files. -/
structure Workspace where
  settings : Settings
  documents : DocumentStore
  roots : List Path
  files : FileTree

namespace Workspace

def filePath (u : Url) : Except CommandFault Path :=
  match u.filePath? with
  | some p => .ok p
  | none => .error (.badArgument (.notFile u))

/-- The document that is open under a URL, or the file on disk. -/
def load (w : Workspace) (u : Url) : Except CommandFault Document :=
  match w.documents.get? u with
  | some d => .ok d
  | none => do
    let path ← filePath u
    match w.files.read path with
    | .ok text => return .new "cpp" text 0
    | .error e => throw (.unreadableFile path e)

end Workspace
end Classwright
