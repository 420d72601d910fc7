import Classwright.Number.Digits
import Classwright.Text.Utf8
/-!
# Positions in a text

An editor addresses a text by line and column, the column counted in UTF-16 units; files are
addressed by bytes of their UTF-8 form. This file converts between the two for a text given as its
characters. An offset inside a character counts as the offset after it, and an offset past the end
as the end.
-/
namespace Classwright

/-- A place between characters: a line and a column in UTF-16 units, both from zero. -/
structure Position where
  line : Nat
  character : Nat
deriving DecidableEq

/-- The position of a line and a column that were counted. An editor is told both in 32 bits. -/
def Position.ofCounts (line column : Nat) : Position := ⟨toWord line, toWord column⟩

theorem Position.ofCounts_of_lt {line column : Nat} (hline : line < twoTo 32) (hcolumn : column < twoTo 32) :
    ofCounts line column = ⟨line, column⟩ := by
  rw [ofCounts, toWord_of_lt hline, toWord_of_lt hcolumn]

/-- The text from one place to another. -/
structure Range where
  start : Position
  stop : Position
deriving DecidableEq

/-- A replacement of the text in a range. -/
structure TextEdit where
  range : Range
  newText : Text
deriving DecidableEq

/-- The earlier line comes first, on one line the smaller column. -/
def Position.le (p q : Position) : Bool :=
  p.line < q.line || (p.line == q.line && p.character ≤ q.character)

/-- The range without text at a position. -/
def Range.at (p : Position) : Range := ⟨p, p⟩

def TextEdit.insert (p : Position) (t : Text) : TextEdit := ⟨.at p, t⟩

namespace Text

/-- The position of an offset among lines, of which the first has the number `line`. Each line has a
line feed behind it, and behind the last one there is no position. -/
def positionIn? (line : Nat) : List Text → Nat → Option Position
  | [], _ => none
  | piece :: more, offset =>
    if offset ≤ piece.bytes then some ⟨line, (piece.splitBytes offset).1.units⟩
    else positionIn? (line + 1) more (offset - (piece.bytes + 1))

def positionAt (t : Text) (offset : Nat) : Position :=
  (positionIn? 0 t.pieces (min offset t.bytes)).getD ⟨0, 0⟩

/-- The line of a byte offset: the number of line feeds among the bytes before it. -/
def lineAt (t : Text) (offset : Nat) : Nat := (t.utf8.take offset).count 10

/-- The position after the last character. -/
def endPosition (t : Text) : Position := t.positionAt t.bytes

/-- The part of a line before a column and the part from there on. A column inside a character
counts as the column after it. -/
def splitAtColumn : Text → Nat → Text × Text
  | [], _ => ([], [])
  | c :: rest, 0 => ([], c :: rest)
  | c :: rest, column + 1 =>
    let (before, after) := splitAtColumn rest (column + 1 - unitsOf c)
    (c :: before, after)

def byteColumn (line : Text) (column : Nat) : Nat := (line.splitAtColumn column).1.bytes

def fromColumn (line : Text) (column : Nat) : Text := (line.splitAtColumn column).2

/-- A split at a column loses nothing. -/
theorem splitAtColumn_append (t : Text) (column : Nat) :
    (t.splitAtColumn column).1 ++ (t.splitAtColumn column).2 = t := by
  induction t generalizing column with
  | nil => rfl
  | cons c t ih =>
    cases column with
    | zero => rfl
    | succ n => simp [splitAtColumn, ih]

end Text
end Classwright
