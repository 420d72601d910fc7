import Classwright.Counterpart
import Classwright.Document.Basic
import Classwright.Json.Basic
import Classwright.Json.Decode
import Classwright.Member
import Classwright.Scaffold
import Classwright.Symbol
import Classwright.Url.Parser
/-!
# The editor's values as JSON

Readers and writers of the values that are exchanged with an editor: positions, ranges, edits,
changes, symbols, syntax nodes and URLs.
-/
namespace Classwright

/-! ## Reading -/

open Fields

/-- A position: line and character. -/
def Position.decode : Decoder Position :=
  record (Position.mk <$> required "line" Json.asWord <*> required "character" Json.asWord)

/-- A range: start and end. -/
def Range.decode : Decoder Range :=
  record (Range.mk <$> required "start" Position.decode <*> required "end" Position.decode)

/-- A change of a document. The length of the replaced text is read and not used. -/
def Change.decode : Decoder Change :=
  record ((fun range _ text => ⟨range, text⟩) <$> optionalAtEnd "range" Range.decode <*>
    optionalAtEnd "rangeLength" Json.asWord <*> required "text" Json.asText)

/-- A URL in its written form. -/
def Url.decode : Decoder Url
  | .str t => match Url.parse? t with
    | some u => .ok u
    | none => .error .badValue
  | _ => .error .badValue

/-- A symbol whose tree has at most `depth` levels. -/
def Symbol.decodeWithin : Nat → Decoder Symbol
  | 0, _ => .error .badValue
  | depth + 1, j =>
    record ((fun name kind range _ children => Symbol.node name kind range children) <$>
      required "name" Json.asText <*> required "kind" Json.asInt32 <*>
      required "range" Range.decode <*> optionalAtEnd "detail" Json.asText <*>
      withDefault "children" (Json.asListOf (decodeWithin depth)) []) j

def Symbol.decode : Decoder Symbol := fun j => decodeWithin j.height j

/-- A syntax node whose tree has at most `depth` levels. All its fields may be missing. -/
def SyntaxNode.decodeWithin : Nat → Decoder SyntaxNode
  | 0, _ => .error .badValue
  | depth + 1, j =>
    record ((fun _ kind _ _ range children => SyntaxNode.mk kind range children) <$>
      withDefault "role" Json.asText [] <*> withDefault "kind" Json.asText [] <*>
      optionalAtEnd "detail" Json.asText <*> optionalAtEnd "arcana" Json.asText <*>
      optionalAtEnd "range" Range.decode <*>
      withDefault "children" (Json.asListOf (decodeWithin depth)) []) j

def SyntaxNode.decode : Decoder SyntaxNode := fun j => decodeWithin j.height j

def ExtensionMapping.decode : Decoder ExtensionMapping :=
  record (ExtensionMapping.mk <$> required "name" Json.asText <*>
    required "header" (Json.asListOf Json.asText) <*>
    required "source" (Json.asListOf Json.asText))

/-! ## Writing -/

namespace Json

/-- A list of values. -/
def ofList (f : α → Json) (xs : List α) : Json := .arr (xs.map f)

/-- A value, or null for none. -/
def ofOption (f : α → Json) : Option α → Json
  | some a => f a
  | none => .null

end Json

def Position.toJson (p : Position) : Json :=
  .ofFields [("line", .int p.line), ("character", .int p.character)]

def Range.toJson (r : Range) : Json :=
  .ofFields [("start", r.start.toJson), ("end", r.stop.toJson)]

def TextEdit.toJson (e : TextEdit) : Json :=
  .ofFields [("range", e.range.toJson), ("newText", .str e.newText)]

def Url.toJson (u : Url) : Json := .str u.text

def NewFile.toJson (f : NewFile) : Json :=
  .ofFields [("path", .str f.path.shown), ("content", .str f.content),
    ("exists", .bool f.alreadyThere)]

end Classwright
