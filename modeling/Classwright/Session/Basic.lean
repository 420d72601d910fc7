import Classwright.BuildLog.Link
import Classwright.Session.Message
import Classwright.Session.Params
import Classwright.Settings.Patch
/-!
# Sessions

The state of one editing session and what each event does to it. Events come from an editor; what
is sent back beside answers is a list of messages.
-/
namespace Classwright

/-- How far a session has come. -/
inductive Phase where
  | waiting
  | running
  | stopped
deriving DecidableEq

structure Session where
  phase : Phase
  workspace : Workspace

namespace Session

def new (files : FileTree) : Session := ⟨.waiting, ⟨.usual, .empty, [], files⟩⟩

def withWorkspace (s : Session) (w : Workspace) : Session := { s with workspace := w }

def withDocuments (s : Session) (d : DocumentStore) : Session :=
  s.withWorkspace { s.workspace with documents := d }

/-! ## The start -/

def serverName : Text := "cpp-helper"

def serverVersion : Text := "0.1.0"

/-- The headers for whose creation and renaming the editor sends notifications. -/
def headerPattern : Text := "**/*.\x7bh,hpp,hh,h++\x7d"

/-- What the server can do. -/
def capabilities : Json :=
  let pattern := Json.ofFields [("glob", .str headerPattern), ("matches", .str "file")]
  let filter := Json.ofFields [("scheme", .str "file"), ("pattern", pattern)]
  let headers := Json.ofFields [("filters", .arr [filter])]
  .ofFields [("textDocumentSync", .int 1),
    ("executeCommandProvider",
      .ofFields [("commands", .ofList (.str ·.name) Command.all)]),
    ("documentLinkProvider", .ofFields [("resolveProvider", .bool false)]),
    ("workspace", .ofFields [("fileOperations",
      .ofFields [("didCreate", headers), ("didRename", headers)])])]

/-- The answer to the first request. -/
def startResult : Json :=
  .ofFields [("capabilities", capabilities),
    ("serverInfo",
      .ofFields [("name", .str serverName), ("version", .str serverVersion)])]

/-- The roots of the workspace that the editor names. Folders count before a single root, even when
there are none in the list. -/
def rootsOf (p : StartParams) : List Path :=
  (p.workspaceFolders.getD p.rootUri.toList).filterMap Url.filePath?

/-- Settings at the start: those of the project's file, and then those that the editor gives. -/
def settingsOf (files : FileTree) (roots : List Path) (options : Option Json) : Settings :=
  let payloads := (roots.head?.bind (ProjectFile.payload? files)).toList ++ options.toList
  payloads.foldl Settings.merge .usual

def start (s : Session) (p : StartParams) : Session :=
  let roots := rootsOf p
  let files := s.workspace.files
  ⟨.running, { s.workspace with roots, settings := settingsOf files roots p.options }⟩

/-- What is asked of the editor once the session runs. -/
def startMessages (s : Session) : List ClientMessage :=
  if s.workspace.settings.strip.enable then [.watchDatabases] else []

/-! ## Settings and the database -/

/-- Take new settings. When they are what they were, nothing is done. -/
def configure (s : Session) (payload : Json) : Session :=
  let merged := s.workspace.settings.merge payload
  if merged = s.workspace.settings then s
  else s.withWorkspace { s.workspace with settings := merged }

/-- The kind of an event for a file that was deleted. -/
def deletedKind : Int := 3

/-- The event is about a file that is there, at a path with the same components. -/
def FileEvent.touches (path : Path) (e : FileEvent) : Bool :=
  e.kind != deletedKind && e.url.filePath?.any (·.components == path.components)

/-- Some event is about the database that is rewritten. -/
def touchesDatabase (w : Workspace) (events : List FileEvent) : Bool :=
  w.roots.head?.any fun root =>
    events.any (FileEvent.touches (Workspace.databasePaths w.settings root).1)

/-- Rewrite the database after it changed, and say so. -/
def restrip (s : Session) : Session × List ClientMessage :=
  match s.workspace.stripDatabase with
  | .ok none => (s, [])
  | .ok (some (files, changed)) =>
    let note := "Stripped " ++ natText changed ++ " compile commands"
    (s.withWorkspace { s.workspace with files },
      if s.workspace.settings.logLevel.allowsInfo then [.log note] else [])
  | .error e =>
    let fault := (CommandFault.notStripped e).message []
    (s, [.warn ("Compile commands stripping failed: " ++ fault)])

def filesChanged (s : Session) (events : List FileEvent) : Session × List ClientMessage :=
  if s.workspace.settings.strip.enable && touchesDatabase s.workspace events then s.restrip
  else (s, [])

/-! ## Guards of new and renamed headers -/

/-- Path and text of a header, from the editor or from the disk. -/
def header? (w : Workspace) (u : Url) : Option (Path × Text) := do
  let path ← u.filePath?
  if !path.isHeader then none
  match w.documents.get? u with
  | some d => return (path, d.text)
  | none => return (path, ← (w.files.read path).toOption)

/-- Edits that put a guard around a new header that has none. -/
def createdEdits? (w : Workspace) (t : Text) : Option (Url × List TextEdit) := do
  let u ← Url.parse? t
  let (path, text) ← header? w u
  if (HeaderGuard.find? text).isSome then none
  return (u, HeaderGuard.create text (Workspace.guardName w.settings path))

/-- Edits that give the guard of a renamed header its new macro. -/
def renamedEdits? (w : Workspace) (t : Text) : Option (Url × List TextEdit) := do
  let u ← Url.parse? t
  let (path, text) ← header? w u
  return (u, HeaderGuard.amend text (Workspace.guardName w.settings path))

/-- One request for the edits of all headers, if there are any and guards are wanted. -/
def guardMessages (w : Workspace) (edits? : Text → Option (Url × List TextEdit))
    (files : List Text) : List ClientMessage :=
  if w.settings.autoCreateHeaderGuard then
    let changes := files.filterMap edits?
    if changes.isEmpty then [] else [.applyEdits changes]
  else []

/-! ## Links -/

/-- Parts of the URLs of documents that always hold a build log. -/
def logMarks : List Text := ["cmake-tools", "cpphelper"]

/-- The document holds a build log. -/
def isLog (s : Settings) (u : Url) (d : Document) : Bool :=
  s.linkLanguages.contains d.languageId || logMarks.any u.text.has

/-- The links of a document that holds a build log. -/
def links? (w : Workspace) (u : Url) : Option (List Link) := do
  let d ← w.documents.get? u
  if !isLog w.settings u d then none
  let root ← w.roots.head?
  return Link.inLog w.files root d.text

/-- A link as an editor gets it. -/
def linkJson (l : Link) : Json := .ofFields [("range", l.range.toJson), ("target", l.target.toJson)]

/-! ## Commands -/

/-- Run a command. A warning goes to the user. -/
def runCommand (s : Session) (p : CommandParams) : Session × Reply × List ClientMessage :=
  match s.workspace.runNamed p.command (p.arguments.headD .null) with
  | .error e => (s, .error e.kind (some (e.message p.command)), [])
  | .ok o =>
    (s.withWorkspace { s.workspace with files := o.files }, .result o.result,
      (o.warning.map ClientMessage.warn).toList)

end Session
end Classwright
