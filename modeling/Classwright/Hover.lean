import Classwright.Text.Basic
/-!
# Hover blocks

What an editor shows about an entity: a title line that quotes its name, some lines on it, and a
fenced block of code that may begin with a comment on the enclosing scope. Each reader gives
nothing when its marker is missing.
-/
namespace Classwright

/-- A hover block, as the text that was shown. -/
structure Hover where
  text : Text

namespace Hover

/-- Opens and closes a block of code. -/
def fence : Text := "\x60\x60\x60"

/-- Starts the comment that names a scope. -/
def scopeMark : Text := "// In "

/-- Starts the comment that names a namespace. -/
def namespaceMark : Text := "// In namespace "

/-- Starts the type of a data member. -/
def typeMark : Text := "Type: \x60"

/-- Quotes a name. -/
def quote : Text := "\x60"

/-- The text between the first `opening` and the next `closing` after it. -/
def between (opening closing t : Text) : Option Text := do
  let (_, rest) ← t.cut? opening
  let (inner, _) ← rest.cut? closing
  return inner

/-- Inside of the last fenced block, without the rest of the opening line and without line ends
at its end. -/
def fencedCode (t : Text) : Option Text := do
  let (before, _) ← t.cutLast? fence
  let (_, inner) ← before.cutLast? fence
  let (_, code) ← inner.cut? ['\n']
  return code.dropEndWhile fun c => c == '\n' || c == '\r'

/-- The name in backticks; without a closing one it goes to the end of the line. -/
def quotedName (line : Text) : Option Text := do
  let (_, rest) ← line.cut? quote
  match rest.cut? quote with
  | some (name, _) => name.nonEmpty?
  | none => rest.trimEnd.nonEmpty?

/-- First line. -/
def title (h : Hover) : Text := h.text.lines.headD []

/-- The title holds a keyword. -/
def titleHas (h : Hover) (key : Text) : Bool := h.title.has key

def entity (h : Hover) : Option Text := quotedName h.title

/-- The last fenced block. -/
def code (h : Hover) : Option Text := fencedCode h.text

/-- The comment that names the scope, trimmed. -/
def scopeLine (h : Hover) : Option Text := do
  let code ← h.code
  (code.lines.map Text.trim).find? (·.startsWith scopeMark)

/-- The enclosing class; a namespace is none. -/
def className (h : Hover) : Option Text := do
  let line ← h.scopeLine
  if line.startsWith namespaceMark then none
  else (← line.stripStart? scopeMark).trim.nonEmpty?

def namespaceName (h : Hover) : Option Text := do
  let line ← h.scopeLine
  (← line.stripStart? namespaceMark).trim.nonEmpty?

/-- The type on the first line after the title that gives one. -/
def typeField (h : Hover) : Option Text := do
  let type ← (h.text.lines.drop 1).findSome? (between typeMark quote)
  type.trim.nonEmpty?

end Hover
end Classwright
