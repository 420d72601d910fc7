import Classwright.Position
import Classwright.Text.Utf8
import Classwright.Url.Basic
/-!
# Open documents

A document is the text that an editor shows, with its version and language. It keeps the byte
offsets at which its lines start, so that a position is found without scanning the text before its
line; every change computes them anew. Each open document is kept under its URL. Opening a document
again replaces it, and changes to a document that is not open are dropped.
-/
namespace Classwright

structure Document where
  /-- The language that the editor announced. -/
  languageId : Text
  text : Text
  version : Int
  /-- Byte offsets of the starts of the lines. -/
  lineStarts : List Nat
deriving DecidableEq

/-- A change of a document: a new text for a range, or for all of it. -/
structure Change where
  range : Option Range
  text : Text
deriving DecidableEq

namespace Document

/-- Offsets behind the line feeds of a text that itself starts at `offset`. -/
def startsAfter (offset : Nat) : Text → List Nat
  | [] => []
  | c :: rest =>
    if c = '\n' then (offset + 1) :: startsAfter (offset + 1) rest
    else startsAfter (offset + c.utf8Size) rest

/-- Offsets of the starts of the lines of a text. -/
def lineStartsOf (t : Text) : List Nat := 0 :: startsAfter 0 t

/-- A document that was just opened. -/
def new (languageId text : Text) (version : Int) : Document :=
  ⟨languageId, text, version, lineStartsOf text⟩

/-! ## Queries -/

/-- Number of lines. -/
def lineCount (d : Document) : Nat := d.lineStarts.length

/-- Offset of the end of a line, in front of its line feed. -/
def lineEnd (d : Document) (line : Nat) : Nat :=
  match d.lineStarts[line + 1]? with
  | some next => next - 1
  | none => d.text.bytes

/-- The byte offset of a position. A column past the end of its line counts as the end; there is no
offset for a line that the document does not have. -/
def offsetOf (d : Document) (p : Position) : Option Nat := do
  let start ← d.lineStarts[p.line]?
  return start + (d.text.slice start (d.lineEnd p.line)).byteColumn p.character

/-- The last line that starts at or before an offset. -/
def lineOf (d : Document) (offset : Nat) : Nat :=
  (d.lineStarts.takeWhile (· ≤ offset)).length - 1

/-- The position of a byte offset that is in the text; the column is counted from the start of the
line. -/
def positionInside (d : Document) (offset : Nat) : Position :=
  let line := d.lineOf offset
  let start := d.lineStarts.getD line 0
  ⟨line, (d.text.slice start offset).units⟩

/-- The position of a byte offset, or of the end for one past it. An offset inside a character has
none. -/
def positionOf (d : Document) (offset : Nat) : Option Position :=
  let offset := min offset d.text.bytes
  if d.text.isBoundary offset then some (d.positionInside offset) else none

/-- The offset of a position, or the end of the text for a line that is not there. -/
def clampedOffset (d : Document) (p : Position) : Nat := (d.offsetOf p).getD d.text.bytes

/-- The text in a range; it is empty when the end comes before the start. -/
def textIn (d : Document) (r : Range) : Text :=
  let start := d.clampedOffset r.start
  d.text.slice start (max (d.clampedOffset r.stop) start)

/-- The position after the last character. -/
def endPosition (d : Document) : Position := d.positionInside d.text.bytes

/-! ## Changes -/

def withText (d : Document) (text : Text) : Document :=
  { d with text, lineStarts := lineStartsOf text }

/-- Replace the whole content. -/
def setContent (d : Document) (text : Text) (version : Int) : Document :=
  { d.withText text with version }

/-- The text with the bytes from `start` to `stop` replaced. -/
def splice (t : Text) (start stop : Nat) (replacement : Text) : Text :=
  (t.splitBytes start).1 ++ replacement ++ (t.splitBytes (max stop start)).2

/-- Apply one change. A range with a line that the document does not have changes nothing. -/
def apply (d : Document) (c : Change) : Document :=
  match c.range with
  | none => d.withText c.text
  | some r =>
    match d.offsetOf r.start, d.offsetOf r.stop with
    | some start, some stop => d.withText (splice d.text start stop c.text)
    | _, _ => d

/-- Apply changes in their order, each to the text that the one before left. -/
def applyChanges (d : Document) (changes : List Change) (version : Int) : Document :=
  { changes.foldl apply d with version }

end Document

/-! ## The store of open documents -/

/-- The open documents, each under its URL. -/
structure DocumentStore where
  entries : List (Url × Document)

namespace DocumentStore

/-- Nothing is open. -/
def empty : DocumentStore := ⟨[]⟩

def get? (s : DocumentStore) (u : Url) : Option Document := s.entries.lookup u

def close (s : DocumentStore) (u : Url) : DocumentStore := ⟨s.entries.filter (·.1 != u)⟩

/-- Open a document, in place of the one that was open under its URL. -/
def insert (s : DocumentStore) (u : Url) (d : Document) : DocumentStore :=
  ⟨(u, d) :: (s.close u).entries⟩

def openNew (s : DocumentStore) (u : Url) (languageId text : Text) (version : Int) :
    DocumentStore :=
  s.insert u (.new languageId text version)

def change (s : DocumentStore) (u : Url) (changes : List Change) (version : Int) :
    DocumentStore :=
  match s.get? u with
  | some d => s.insert u (d.applyChanges changes version)
  | none => s

end DocumentStore
end Classwright
