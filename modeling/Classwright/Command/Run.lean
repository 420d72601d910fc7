import Classwright.BuildLog.Message
import Classwright.Command.Request
import Classwright.Signature.Basic
/-!
# Running commands

A command is run on the workspace with one argument. Only the command for the compilation database
changes anything, and only files.
-/
namespace Classwright

/-- What a command leads to: its result, which is null when there is nothing to do, a warning for
the user, and the files afterwards. -/
structure CommandOutcome where
  result : Json
  warning : Option Text
  files : FileTree

/-! ## Results -/

def GeneratedFunction.toJson (f : GeneratedFunction) : Json :=
  .ofFields [("declaration", .str f.declaration), ("definition", .str f.definition)]

def Insertion.toJson (i : Insertion) : Json :=
  let fields : List (Text × Json) :=
    [("className", .str i.className), ("insertAt", i.insertAt.toJson),
      ("declaration", .str (GeneratedFunction.declarationBlock i.functions)),
      ("definition", .str (GeneratedFunction.definitionBlock i.functions)),
      ("functions", .ofList GeneratedFunction.toJson i.functions)]
  match i.source with
  | some u => .ofFields (("sourceUri", u.toJson) :: fields)
  | none => .ofFields fields

/-- The definition of a function that a header declares, and the source where it goes. -/
structure Implementation where
  target : Url
  headerName : Text
  signature : Signature

def Implementation.toJson (i : Implementation) : Json :=
  .ofFields [("targetUri", i.target.toJson),
    ("include", .str ("#include \"" ++ i.headerName ++ "\"")),
    ("definition", .str ('\n' :: i.signature.definition)),
    ("declaration", .str i.signature.declaration)]

/-- The definition of the function of a hover in a header. -/
def ImplementationRequest.answer? (r : ImplementationRequest) : Option Implementation := do
  let header ← r.url.filePath?
  let target ← header.implementationTarget?
  let signature ← Signature.ofHover? r.hover
  return ⟨← Url.ofFilePath? target, header.fileNameText?.getD [], signature⟩

namespace Workspace

def guardName (s : Settings) (header : Path) : Text :=
  HeaderGuard.nameOf (header.fileNameText?.getD []) s.templates.guardPattern

/-- Edits of the guard of a header, which `edits` finds from its text and its macro. -/
def guardEdits (w : Workspace) (u : Url) (edits : Text → Text → List TextEdit) :
    Except CommandFault (List TextEdit) := do
  let path ← filePath u
  let d ← w.load u
  return edits d.text (guardName w.settings path)

/-- The platform whose rules are used. -/
def platform : Text := "linux"

/-- The generated database of a workspace root, and the one that is written. -/
def databasePaths (s : Settings) (root : Path) : Path × Path :=
  (CompileDatabase.inDirectory s.strip.dir root, CompileDatabase.inDirectory s.strip.outputDir root)

/-- Rewrite the database of the first root: the files afterwards and the number of changed commands;
none when there is no root. -/
def stripDatabase (w : Workspace) : Except StripError (Option (FileTree × Nat)) :=
  match w.roots.head?, w.settings.strip.rulesFor? platform with
  | some root, some rules =>
    let (source, target) := databasePaths w.settings root
    (CompileDatabase.strip w.files source target rules).map some
  | _, _ => .ok none

/-- The file that belongs to a header or source, as a URL. -/
def counterpartUrl? (w : Workspace) (path : Path) : Option Url :=
  (Counterpart.find? w.files path w.settings.mappings w.roots).bind Url.ofFilePath?

/-- A result without a warning, from a command that changes nothing. -/
def plain (w : Workspace) (result : Json) : CommandOutcome := ⟨result, none, w.files⟩

def readArgument (read : Decoder α) (j : Json) : Except CommandFault α :=
  (read j).mapError fun e => .badArgument (.unreadable e)

/-- Said when there is no class for special members. -/
def noClassWarning : Text := "No enclosing class or struct at the cursor."

end Workspace

open Workspace

def Command.run (c : Command) (w : Workspace) (argument : Json) :
    Except CommandFault CommandOutcome :=
  match c with
  | createFuncImpl => do
    let r ← readArgument ImplementationRequest.decode argument
    return w.plain (.ofOption Implementation.toJson r.answer?)
  | getterSetterOptions => do
    let r ← readArgument AccessorRequest.decode argument
    return w.plain (.ofList .str (r.labels w.settings))
  | createGetterSetter => do
    let r ← readArgument AccessorRequest.decode argument
    return w.plain (.ofOption Insertion.toJson (← r.insertion w))
  | specialMemberOptions => .ok (w.plain (.ofList (.str ·.label) SpecialMember.all))
  | createSpecialMember => do
    let r ← readArgument SpecialMemberRequest.decode argument
    match ← r.insertion w with
    | some i => return w.plain i.toJson
    | none => return { w.plain .null with warning := some noClassWarning }
  | createHeaderGuard => do
    let u ← readArgument decodeUrl argument
    return w.plain (.ofList TextEdit.toJson (← w.guardEdits u HeaderGuard.create))
  | amendHeaderGuard => do
    let u ← readArgument decodeUrl argument
    return w.plain (.ofList TextEdit.toJson (← w.guardEdits u HeaderGuard.amend))
  | createClass => do
    let r ← readArgument (decodeNewFile "className") argument
    let name := r.name.trim
    if name.isEmpty then throw (.badArgument .emptyClassName)
    let t := w.settings.templates
    return w.plain (.ofFields [("header", (NewFile.header w.files r.dir name t).toJson),
      ("source", (NewFile.source w.files r.dir name t).toJson)])
  | createUnitTest => do
    let r ← readArgument (decodeNewFile "fileName") argument
    let name := r.name.trim
    if name.isEmpty then throw (.badArgument .emptyFileName)
    return w.plain (NewFile.unitTest w.files r.dir name w.settings.templates).toJson
  | insertRegion => do
    let r ← readArgument decodeRange argument
    return w.plain (.ofList TextEdit.toJson (regionEdits r w.settings.templates))
  | switchHeaderSource => do
    let path ← filePath (← readArgument decodeUrl argument)
    return w.plain (.ofOption Url.toJson (w.counterpartUrl? path))
  | stripCompileCommands =>
    match w.stripDatabase with
    | .error e => .error (.notStripped e)
    | .ok none => .ok (w.plain .null)
    | .ok (some (files, changed)) => .ok ⟨.int changed, none, files⟩
  | beautifyBuildOutput => do
    let t ← readArgument decodeText argument
    return w.plain (.ofList .str (BuildMessage.ofLog t))

def Workspace.runNamed (w : Workspace) (name : Text) (argument : Json) :
    Except CommandFault CommandOutcome :=
  match Command.ofName? name with
  | some c => c.run w argument
  | none => .error .unknownCommand

end Classwright
