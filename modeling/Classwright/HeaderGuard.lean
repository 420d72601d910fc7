import Classwright.Position
/-!
# Header guards

A guard is an `#ifndef` and a `#define` of one macro and a closing `#endif` in a header. This file
names the macro of a file, writes a guard around a text, finds the lines of a guard that is there,
and rewrites them for another macro.
-/
namespace Classwright.HeaderGuard

/-! ## The macro of a file -/

/-- Stands for the name of the file in a pattern of macros. -/
def placeholder : Text := "\x7bFILE\x7d"

/-- The pattern when none is given. -/
def usualPattern : Text := "\x7bFILE\x7d_H"

/-- The last name of a path in either style of separators. -/
def baseName (file : Text) : Text :=
  (file.reverse.takeWhile fun c => c != '/' && c != '\\').reverse

/-- The name without its last extension; a dot in front is no extension. -/
def stem (base : Text) : Text :=
  match base.cutLast? ['.'] with
  | some (before, _) => if before.isEmpty then base else before
  | none => base

/-- A character of a file name as part of a macro name. -/
def macroChar (c : Char) : Char := if c.isAlphanum then c.toUpper else '_'

/-- The macro of a file: the pattern, with the upper-cased stem for its first placeholder. -/
def nameOf (file pattern : Text) : Text :=
  let name := (stem (baseName file)).map macroChar
  pattern.replaceFirst placeholder name

/-! ## Directives

A directive stands at the start of a line. White space inside it may go over line ends; behind it
only blanks, tabs and one carriage return may stand on the line. -/

/-- The rest of a line after a directive: blanks and tabs, at most one carriage return, and then the
end of the line. -/
def endsLine (t : Text) : Bool :=
  let rest : Text := t.dropWhile fun c => c == ' ' || c == '\t'
  match (rest.stripStart? ['\r']).getD rest with
  | [] => true
  | c :: _ => c == '\n'

/-- The text after white space of at least one character. -/
def afterBlanks? (t : Text) : Option Text :=
  if t.head?.any Text.isBlankChar then some t.trimStart else none

/-- A word without white space, of at least one character, and the text after it. -/
def word? (t : Text) : Option (Text × Text) :=
  let word : Text := t.takeWhile (!Text.isBlankChar ·)
  if word.isEmpty then none else some (word, t.dropWhile (!Text.isBlankChar ·))

/-- The macro of a directive that consists of a keyword and a macro. -/
def macroAfter? (key t : Text) : Option Text := do
  let rest ← afterBlanks? (← t.stripStart? key)
  let (name, rest) ← word? rest
  if endsLine rest then some name else none

/-- The macro in a block comment, after the white space at its start. The closing mark may follow
white space or be the end of the word itself. -/
def blockMacro? (t : Text) : Option Text := do
  let (word, rest) ← word? t
  match rest.trimStart.stripStart? "*/" with
  | some after => if endsLine after then some word else inWord word rest
  | none => inWord word rest
where
  inWord (word rest : Text) : Option Text := do
    let name ← word.stripEnd? "*/"
    if !name.isEmpty && endsLine rest then some name else none

/-- The macro of `#endif` with a block comment. -/
def endifBlock? (t : Text) : Option Text := do
  let rest ← afterBlanks? (← t.stripStart? "#endif")
  let rest ← afterBlanks? (← rest.stripStart? "/*")
  blockMacro? rest

/-- The macro of `#endif` with a line comment. -/
def endifLine? (t : Text) : Option Text := do
  let rest ← afterBlanks? (← t.stripStart? "#endif")
  let rest ← afterBlanks? (← rest.stripStart? "//")
  let (name, rest) ← word? rest
  if endsLine rest then some name else none

/-- `#endif` with nothing behind it. -/
def isBareEndif (t : Text) : Bool := (t.stripStart? "#endif").any endsLine

/-! ## Finding a guard -/

/-- The texts behind the line feeds of a text. -/
def tailsAfter : Text → List Text
  | [] => []
  | c :: rest => if c = '\n' then rest :: tailsAfter rest else tailsAfter rest

/-- The text from the start of each of its lines on. -/
def lineTails (t : Text) : List Text := t :: tailsAfter t

/-- The first line at which a directive is read, with what was read. -/
def firstLine? (read : Text → Option α) : List Text → Option (Nat × α)
  | [] => none
  | t :: rest =>
    match read t with
    | some a => some (0, a)
    | none => (firstLine? read rest).map fun (n, a) => (n + 1, a)

def lastLine? (p : Text → Bool) : List Text → Option Nat
  | [] => none
  | t :: rest =>
    match lastLine? p rest with
    | some n => some (n + 1)
    | none => if p t then some 0 else none

/-- The line of the closing directive, and its macro when it names one: the first with a block
comment, or else the first with a line comment, or else the last bare one. -/
def closing? (tails : List Text) : Option (Nat × Option Text) :=
  match firstLine? endifBlock? tails with
  | some (n, name) => some (n, some name)
  | none => match firstLine? endifLine? tails with
    | some (n, name) => some (n, some name)
    | none => (lastLine? isBareEndif tails).map (·, none)

structure Lines where
  ifndef : Nat
  define : Nat
  endif : Nat
deriving DecidableEq

/-- The lines of the guard of a text. The macros have to agree and the lines to be in order. -/
def find? (t : Text) : Option Lines := do
  let tails := lineTails t
  let (ifndef, name) ← firstLine? (macroAfter? "#ifndef") tails
  let (define, defined) ← firstLine? (macroAfter? "#define") tails
  let (endif, closed) ← closing? tails
  if defined = name ∧ (closed.all (· == name)) ∧ ifndef ≤ define ∧ define ≤ endif then
    some ⟨ifndef, define, endif⟩
  else none

/-! ## Edits -/

/-- The first directive of a guard. -/
def ifndefText (guard : Text) : Text := "#ifndef " ++ guard

/-- The second directive of a guard. -/
def defineText (guard : Text) : Text := "#define " ++ guard

/-- The closing directive of a guard. -/
def endifText (guard : Text) : Text := "#endif // " ++ guard

def create (t guard : Text) : List TextEdit :=
  [.insert ⟨0, 0⟩ (ifndefText guard ++ "\n" ++ defineText guard ++ "\n\n"),
    .insert t.endPosition ('\n' :: endifText guard)]

/-- The edit that replaces a line, without carriage returns at its end. -/
def replaceLine (lines : List Text) (line : Nat) (directive : Text) : TextEdit :=
  let content := (lines.getD line []).dropEndWhile (· == '\r')
  ⟨⟨⟨line, 0⟩, ⟨line, content.units⟩⟩, directive⟩

/-- Edits that give the guard of a text another macro; a text without a guard gets one. -/
def amend (t guard : Text) : List TextEdit :=
  match find? t with
  | none => create t guard
  | some found =>
    [replaceLine t.pieces found.ifndef (ifndefText guard),
      replaceLine t.pieces found.define (defineText guard),
      replaceLine t.pieces found.endif (endifText guard)]

end Classwright.HeaderGuard
