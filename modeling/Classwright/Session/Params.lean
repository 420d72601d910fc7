import Classwright.EditorJson
/-!
# Parameters of requests and notifications

What an editor sends with each method, read as a whole.
-/
namespace Classwright

open Fields Json

/-- What an editor says about itself and its workspace at the start. -/
structure StartParams where
  rootUri : Option Url
  options : Option Json
  workspaceFolders : Option (List Url)

structure OpenedDocument where
  url : Url
  languageId : Text
  version : Int
  text : Text

structure ChangedDocument where
  url : Url
  version : Int
  changes : List Change

/-- A change of a file on disk. -/
structure FileEvent where
  url : Url
  kind : Int

structure CommandParams where
  command : Text
  arguments : List Json

def asObject : Decoder Unit
  | .obj _ => .ok ()
  | _ => .error .badValue

def asOneOf (names : List Text) : Decoder Unit
  | .str t | .obj [(t, .null)] => if names.contains t then .ok () else .error .badValue
  | _ => .error .badValue

/-- A token under which progress is reported. -/
def asToken : Decoder Unit
  | .str _ => .ok ()
  | j => (asInt32 j).map fun _ => ()

def decodeFolder : Decoder Url :=
  record ((fun u _ => u) <$> required "uri" Url.decode <*> required "name" asText)

/-- The name and version of an editor. -/
def decodeClientInfo : Decoder Unit :=
  record ((fun _ _ => ()) <$> required "name" asText <*> optional "version" asText)

def StartParams.decode : Decoder StartParams :=
  record ((fun _ _ root options _ _ folders _ _ => ⟨root, options, folders⟩) <$>
    optional "processId" asWord <*> optional "rootPath" asText <*>
    optionalAtEnd "rootUri" Url.decode <*> optional "initializationOptions" asAny <*>
    required "capabilities" asObject <*>
    optionalAtEnd "trace" (asOneOf ["off", "messages", "verbose"]) <*>
    optional "workspaceFolders" (asListOf decodeFolder) <*>
    optional "clientInfo" decodeClientInfo <*> optional "locale" asText)

/-- A record without fields. -/
def decodeNothing : Decoder Unit := record (pure ())

def decodeConfiguration : Decoder Json := record (required "settings" asAny)

def FileEvent.decode : Decoder FileEvent :=
  record (FileEvent.mk <$> required "uri" Url.decode <*> required "type" asInt32)

/-- Changes of watched files. -/
def decodeWatched : Decoder (List FileEvent) :=
  record (required "changes" (asListOf FileEvent.decode))

/-- The texts of the URLs of files that were created. -/
def decodeCreated : Decoder (List Text) :=
  record (required "files" (asListOf (record (required "uri" asText))))

/-- The texts of the new URLs of files that were renamed. -/
def decodeRenamed : Decoder (List Text) :=
  record (required "files" (asListOf
    (record ((fun _ new => new) <$> required "oldUri" asText <*> required "newUri" asText))))

def OpenedDocument.decode : Decoder OpenedDocument :=
  record (required "textDocument" (record (OpenedDocument.mk <$> required "uri" Url.decode <*>
    required "languageId" asText <*> required "version" asInt32 <*> required "text" asText)))

def ChangedDocument.decode : Decoder ChangedDocument :=
  record ((fun (u, v) changes => ⟨u, v, changes⟩) <$>
    required "textDocument" (record (Prod.mk <$> required "uri" Url.decode <*>
      required "version" asInt32)) <*>
    required "contentChanges" (asListOf Change.decode))

def decodeIdentifier : Fields Url :=
  required "textDocument" (record (required "uri" Url.decode))

/-- The document that was closed. -/
def decodeClosed : Decoder Url := record decodeIdentifier

/-- The document whose links are wanted. -/
def decodeLinked : Decoder Url :=
  objectOnly ((fun u _ _ => u) <$> decodeIdentifier <*> optional "workDoneToken" asToken <*>
    optional "partialResultToken" asToken)

def CommandParams.decode : Decoder CommandParams :=
  objectOnly ((fun c arguments _ => ⟨c, arguments⟩) <$> required "command" asText <*>
    withDefault "arguments" (asListOf asAny) [] <*> optional "workDoneToken" asToken)

end Classwright
