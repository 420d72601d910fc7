import Classwright.Command.Insertion
import Classwright.EditorJson
/-!
# Arguments of commands

Each command takes one argument, a record. It is read as a whole before anything else is checked.
-/
namespace Classwright

open Fields Json

/-- A request for the definition of a function that a header declares. -/
structure ImplementationRequest where
  url : Url
  hover : Hover

structure NewFileRequest where
  dir : Path
  name : Text

def Path.decode : Decoder Path := fun j => (asText j).map Path.ofText

def Hover.decode : Decoder Hover := fun j => (asText j).map Hover.mk

namespace Command

def decodeUrl : Decoder Url := record (required "uri" Url.decode)

def decodeRange : Decoder Range := record (required "range" Range.decode)

def decodeText : Decoder Text := record (required "text" asText)

/-- The argument of a command for new files, under the key of the name. -/
def decodeNewFile (nameKey : Text) : Decoder NewFileRequest :=
  record (NewFileRequest.mk <$> required "dir" Path.decode <*> required nameKey asText)

end Command

def ImplementationRequest.decode : Decoder ImplementationRequest :=
  record (ImplementationRequest.mk <$> required "uri" Url.decode <*>
    required "hover" Hover.decode)

def AccessorRequest.decode : Decoder AccessorRequest :=
  record (AccessorRequest.mk <$> required "uri" Url.decode <*> required "hover" Hover.decode <*>
    optionalAtEnd "ast" SyntaxNode.decode <*>
    withDefault "symbols" (asListOf Symbol.decode) [] <*>
    optionalAtEnd "range" Range.decode <*> optionalAtEnd "option" asText)

def SpecialMemberRequest.decode : Decoder SpecialMemberRequest :=
  record (SpecialMemberRequest.mk <$> required "uri" Url.decode <*>
    withDefault "symbols" (asListOf Symbol.decode) [] <*>
    required "position" Position.decode <*> withDefault "options" (asListOf asText) [] <*>
    optionalAtEnd "inHeader" asBool)

end Classwright
