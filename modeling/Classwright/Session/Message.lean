import Classwright.Command.Run
/-!
# Answers and messages

What a session sends: the answer to a request, and messages of its own.
-/
namespace Classwright

inductive ErrorKind where
  | methodNotFound
  | invalidParams
  | internalError
  | invalidRequest
  | notInitialized
deriving DecidableEq

/-- An answer. Parameters that cannot be read are refused without a text. -/
inductive Reply where
  | result (j : Json)
  | error (kind : ErrorKind) (message : Option Text)

namespace Reply

def invalidRequest : Reply := error .invalidRequest (some "Invalid request")

def notInitialized : Reply := error .notInitialized (some "Server not initialized")

def methodNotFound : Reply := error .methodNotFound (some "Method not found")

/-- The parameters are missing or cannot be read. -/
def badParams : Reply := error .invalidParams none

end Reply

def CommandFault.kind : CommandFault → ErrorKind
  | unknownCommand => .methodNotFound
  | badArgument _ => .invalidParams
  | unreadableFile _ _ | notStripped _ => .internalError

/-- A message to the editor. -/
inductive ClientMessage where
  /-- Ask to hear about changes of compilation databases. -/
  | watchDatabases
  /-- Ask for edits of documents. -/
  | applyEdits (changes : List (Url × List TextEdit))
  | log (text : Text)
  | warn (text : Text)

namespace ClientMessage

/-- In front of all texts for the user. -/
def mark : Text := "cpp-helper: "

def method : ClientMessage → Text
  | watchDatabases => "client/registerCapability"
  | applyEdits _ => "workspace/applyEdit"
  | log _ => "window/logMessage"
  | warn _ => "window/showMessage"

/-- The editor has to answer. -/
def isRequest : ClientMessage → Bool
  | watchDatabases | applyEdits _ => true
  | log _ | warn _ => false

/-- Name of the registration of the watcher. -/
def watcherId : Text := "cpphelper-compile-commands"

def watchedMethod : Text := "workspace/didChangeWatchedFiles"

/-- The registration of a watcher for databases in any directory. -/
def registration : Json :=
  let watcher := Json.ofFields [("globPattern", .str ("**/" ++ CompileDatabase.fileName))]
  .ofFields [("id", .str watcherId), ("method", .str watchedMethod),
    ("registerOptions", .ofFields [("watchers", .arr [watcher])])]

def textParams (severity : Int) (t : Text) : Json :=
  .ofFields [("type", .int severity), ("message", .str (mark ++ t))]

def params : ClientMessage → Json
  | watchDatabases => .ofFields [("registrations", .arr [registration])]
  | applyEdits changes =>
    let edits := Json.ofFields (changes.map fun (u, es) => (u.text, .ofList TextEdit.toJson es))
    .ofFields [("edit", .ofFields [("changes", edits)])]
  | warn t => textParams 2 t
  | log t => textParams 3 t

end ClientMessage
end Classwright
