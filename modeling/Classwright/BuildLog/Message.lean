import Classwright.BuildLog.Location
/-!
# Messages of a build

Lines of a build log that report an error or a warning, condensed to one line each. A log holds the
lines of several builds; only the last one counts.
-/
namespace Classwright

/-- What a message reports. -/
inductive MessageKind where
  | error
  | warning
deriving DecidableEq

/-- An error or a warning of a compiler. -/
structure BuildMessage where
  kind : MessageKind
  /-- The location as it is shown. -/
  file : Text
  hint : Text
deriving DecidableEq

namespace BuildMessage

/-- In front of each line of the compiler. -/
def linePrefix : Text := "[build] "

def startMark : Text := "[build] Starting build"

/-- In front of the condensed lines of a kind. -/
def mark : MessageKind → Text
  | .error => "-[Eror] "
  | .warning => "-[Warn] "

/-- What stands in front of the hint of each kind. -/
def keys : MessageKind → List Text
  | .error => [": error ", ": fatal error: ", ": error: ", ": 致命错误：", ": 错误："]
  | .warning => [": 警告：", ": warning ", ": warning: "]

/-- The text behind the first key that is in the line, in the order of the keys. -/
def hintOf? (kind : MessageKind) (line : Text) : Option (MessageKind × Text) :=
  (keys kind).findSome? fun key => (line.cut? key).map fun (_, hint) => (kind, hint)

/-- Kind and hint of a line; an error counts before a warning. -/
def hint? (line : Text) : Option (MessageKind × Text) :=
  (hintOf? .error line).or (hintOf? .warning line)

def ofLine? (line : Text) : Option BuildMessage := do
  let message ← line.stripStart? linePrefix
  let location ← Location.ofMessage? message
  let (kind, hint) ← hint? line
  return ⟨kind, Location.collapseCurrent location.text, hint⟩

def render (m : BuildMessage) : Text := mark m.kind ++ m.file ++ " || " ++ m.hint

/-- The messages so far, with those of one more line; the start of a build drops them. -/
def step (sofar : List Text) (line : Text) : List Text :=
  if line.has startMark then []
  else match ofLine? line with
    | some m => sofar ++ [m.render]
    | none => sofar

/-- The messages of the last build in a log. -/
def ofLog (t : Text) : List Text := t.lines.foldl step []

end BuildMessage
end Classwright
