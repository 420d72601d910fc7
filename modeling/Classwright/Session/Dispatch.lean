import Classwright.Session.Basic
/-!
# Dispatch

Which method is which event. A session answers nothing but its first request until that has
succeeded, and nothing at all once it has been stopped.
-/
namespace Classwright.Session

/-- The notifications that are heard. -/
def notifications : List Text :=
  ["initialized", "textDocument/didOpen", "textDocument/didChange", "textDocument/didClose",
    "workspace/didChangeConfiguration", "workspace/didChangeWatchedFiles",
    "workspace/didCreateFiles", "workspace/didRenameFiles"]

/-- Further notifications of the protocol, which say nothing to this server. -/
def silentNotifications : List Text :=
  ["textDocument/willSave", "textDocument/didSave", "workspace/didChangeWorkspaceFolders",
    "workspace/didDeleteFiles"]

/-- Further requests of the protocol, which this server does not offer. All of them have
parameters. -/
def otherRequests : List Text :=
  List.map String.toList [
    "callHierarchy/incomingCalls", "callHierarchy/outgoingCalls", "codeAction/resolve",
    "codeLens/resolve", "completionItem/resolve", "documentLink/resolve", "inlayHint/resolve",
    "textDocument/codeAction", "textDocument/codeLens", "textDocument/colorPresentation",
    "textDocument/completion", "textDocument/declaration", "textDocument/definition",
    "textDocument/diagnostic", "textDocument/documentColor", "textDocument/documentHighlight",
    "textDocument/documentSymbol", "textDocument/foldingRange", "textDocument/formatting",
    "textDocument/hover", "textDocument/implementation", "textDocument/inlayHint",
    "textDocument/inlineValue", "textDocument/linkedEditingRange", "textDocument/moniker",
    "textDocument/onTypeFormatting", "textDocument/prepareCallHierarchy",
    "textDocument/prepareRename", "textDocument/prepareTypeHierarchy",
    "textDocument/rangeFormatting", "textDocument/references", "textDocument/rename",
    "textDocument/selectionRange", "textDocument/semanticTokens/full",
    "textDocument/semanticTokens/full/delta", "textDocument/semanticTokens/range",
    "textDocument/signatureHelp", "textDocument/typeDefinition",
    "textDocument/willSaveWaitUntil", "typeHierarchy/subtypes", "typeHierarchy/supertypes",
    "workspace/diagnostic", "workspace/symbol", "workspace/willCreateFiles",
    "workspace/willDeleteFiles", "workspace/willRenameFiles", "workspaceSymbol/resolve"]

/-- Parameters that are there and can be read. -/
def readParams (read : Decoder α) (params : Option Json) : Option α :=
  params.bind fun j => (read j).toOption

/-- Answer a request of a session that has not begun or is stopped. -/
def refusal : Phase → Reply
  | .stopped => .invalidRequest
  | _ => .notInitialized

/-- Begin the session, which can be done once. -/
def requestStart (s : Session) (params : Option Json) : Session × Reply :=
  if s.phase = .waiting then
    match readParams StartParams.decode params with
    | some p => (s.start p, .result startResult)
    | none => (s, .badParams)
  else (s, .invalidRequest)

/-- Stop the session. -/
def requestShutdown (s : Session) (params : Option Json) : Session × Reply :=
  ({ s with phase := .stopped }, if params.isSome then .badParams else .result .null)

/-- Answer a request of a running session by a method of the protocol. One that is not offered is
refused, but its parameters are asked for first. -/
def requestRunning (s : Session) (method : String) (params : Option Json) :
    Session × Reply × List ClientMessage :=
  match method with
  | "shutdown" =>
    let (s, r) := s.requestShutdown params
    (s, r, [])
  | "workspace/executeCommand" =>
    match readParams CommandParams.decode params with
    | some p => s.runCommand p
    | none => (s, .badParams, [])
  | "textDocument/documentLink" =>
    match readParams decodeLinked params with
    | some u => (s, .result (.ofOption (.ofList linkJson) (links? s.workspace u)), [])
    | none => (s, .badParams, [])
  | _ =>
    if (notifications ++ silentNotifications).contains method.toList then
      (s, .invalidRequest, [])
    else (s, if params.isNone then .badParams else .methodNotFound, [])

/-- The method is one of the protocol. -/
def isKnown (method : Text) : Bool :=
  method == "shutdown".toList || method == "workspace/executeCommand".toList ||
    method == "textDocument/documentLink".toList ||
    (notifications ++ silentNotifications ++ otherRequests).contains method

/-- Answer a request. There is no answer to an unknown method that a server may ignore. -/
def request (s : Session) (method : Text) (params : Option Json) :
    Session × Option Reply × List ClientMessage :=
  if method = "initialize".toList then
    let (s, r) := s.requestStart params
    (s, some r, [])
  else if !isKnown method then
    (s, if method.startsWith "$/" then none else some .methodNotFound, [])
  else if s.phase = .running then
    let (s, r, messages) := s.requestRunning (String.ofList method) params
    (s, some r, messages)
  else (s, some (refusal s.phase), [])

/-- Hear a notification in a running session, with what it says. -/
def heard (s : Session) (read : Decoder α) (params : Option Json)
    (event : α → Session × List ClientMessage) : Session × List ClientMessage :=
  match readParams read params with
  | some a => event a
  | none => (s, [])

/-- Hear a notification. What is unknown, or cannot be read, changes nothing. -/
def notify (s : Session) (method : Text) (params : Option Json) : Session × List ClientMessage :=
  let w := s.workspace
  if s.phase = .running then
    match String.ofList method with
    | "initialized" => s.heard decodeNothing params fun _ => (s, s.startMessages)
    | "textDocument/didOpen" => s.heard OpenedDocument.decode params fun d =>
      (s.withDocuments (w.documents.openNew d.url d.languageId d.text d.version), [])
    | "textDocument/didChange" => s.heard ChangedDocument.decode params fun d =>
      (s.withDocuments (w.documents.change d.url d.changes d.version), [])
    | "textDocument/didClose" => s.heard decodeClosed params fun u =>
      (s.withDocuments (w.documents.close u), [])
    | "workspace/didChangeConfiguration" => s.heard decodeConfiguration params fun payload =>
      (s.configure payload, [])
    | "workspace/didChangeWatchedFiles" => s.heard decodeWatched params s.filesChanged
    | "workspace/didCreateFiles" => s.heard decodeCreated params fun files =>
      (s, guardMessages w (createdEdits? w) files)
    | "workspace/didRenameFiles" => s.heard decodeRenamed params fun files =>
      (s, guardMessages w (renamedEdits? w) files)
    | "shutdown" => ({ s with phase := .stopped }, [])
    | _ => (s, [])
  else (s, [])

end Classwright.Session
