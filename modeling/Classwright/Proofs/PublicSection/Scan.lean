import Mathlib.Tactic.Common
import Classwright.Proofs.Text.Lines
import Classwright.Proofs.Text.Search
import Classwright.PublicSection
/-!
# The scan for the public section

The scan passes over the lines of a class once, as they are seen from its column. What it finds is
described here by two line numbers, the line that opens the section (`opening?`) and the next one
with a specifier (`closing?`), and by the line in front of which new members go (`row`). Everything
else that the scan gives follows from them (`publicPart_eq`, `point_eq`, `indent_eq`).
-/
namespace Classwright

/-- The line with the opening brace, among the lines around it. -/
theorem PublicSection.eq_of_braceLine? {ls after : List Text} {n : Nat} {before : Text}
    (h : braceLine? ls = some (n, before, after)) :
    ∃ front rest, ls = front ++ (before ++ '\x7b' :: rest) :: after ∧ front.length = n := by
  induction ls generalizing n with
  | nil => cases h
  | cons line ls ih =>
    rw [braceLine?] at h
    cases hc : line.cut? ['\x7b'] with
    | some cut =>
      obtain ⟨b, rest⟩ := cut
      rw [hc] at h
      cases h
      exact ⟨[], rest, by simp [Text.eq_of_cut? hc], rfl⟩
    | none =>
      rw [hc] at h
      obtain ⟨⟨k, b, a⟩, hk, he⟩ := Option.map_eq_some_iff.1 h
      cases he
      obtain ⟨front, rest, rfl, hn⟩ := ih hk
      exact ⟨line :: front, rest, rfl, by simp [hn]⟩

/-- A class together with its text. -/
structure ClassSource where
  symbol : ClassSymbol
  text : Text

namespace ClassSource

open PublicSection

variable {s : ClassSource} {i j : Nat}

def lines (s : ClassSource) : List Text := linesOf s.text

def firstLine (s : ClassSource) : Nat := s.symbol.range.start.line

def column (s : ClassSource) : Nat := s.symbol.range.start.character

def views (s : ClassSource) : List Text := fromClassColumn s.column s.lines

/-- The first line that opens a public section. -/
def opening? (s : ClassSource) : Option Nat := s.views.findIdx? isPublic

/-- The next line after `i` with an access specifier. -/
def closing? (s : ClassSource) (i : Nat) : Option Nat :=
  ((s.views.drop (i + 1)).findIdx? isAccess).map (i + 1 + ·)

def publicPart (s : ClassSource) : PublicSection := ofClass s.symbol s.text

/-- Where new members go. -/
def point (s : ClassSource) : Position := s.publicPart.insertionPoint (bodyStart s.symbol s.text)

/-- The line in front of which new members go, when line `i` opens the section: the specifier that
closes it, or else the last line. -/
def row (s : ClassSource) (i : Nat) : Nat := (s.closing? i).getD (max (s.lines.length - 1) (i + 1))

/-- The lines strictly between two. -/
def between (s : ClassSource) (i j : Nat) : List Text := (s.lines.drop (i + 1)).take (j - (i + 1))

/-! ## Bounds -/

@[simp] theorem length_lines (s : ClassSource) : s.lines.length = s.text.pieces.length := by
  simp [lines, linesOf]

theorem length_fromClassColumn (column : Nat) (ls : List Text) :
    (fromClassColumn column ls).length = ls.length := by
  cases ls <;> simp [fromClassColumn]

@[simp] theorem length_views (s : ClassSource) : s.views.length = s.text.pieces.length := by
  simp [views, length_fromClassColumn]

theorem opening_lt (h : s.opening? = some i) : i < s.text.pieces.length := by
  obtain ⟨hi, -⟩ := List.findIdx?_eq_some_iff_getElem.1 h
  simpa using hi

theorem closing_bounds (h : s.closing? i = some j) : i < j ∧ j < s.text.pieces.length := by
  obtain ⟨k, hk, rfl⟩ := Option.map_eq_some_iff.1 h
  obtain ⟨hk', -⟩ := List.findIdx?_eq_some_iff_getElem.1 hk
  simp only [List.length_drop, length_views] at hk'
  omega

theorem lt_row (s : ClassSource) (i : Nat) : i < s.row i := by
  unfold row
  cases h : s.closing? i with
  | none => rw [Option.getD_none]; omega
  | some j => exact (closing_bounds h).1

/-- Only a section that opens on the last line has its row behind the class. -/
theorem row_lt (h : i + 1 < s.text.pieces.length) : s.row i < s.text.pieces.length := by
  unfold row
  cases hc : s.closing? i with
  | none => rw [Option.getD_none, length_lines]; omega
  | some j => exact (closing_bounds hc).2

theorem row_of_last (h : i + 1 = s.text.pieces.length) : s.row i = s.text.pieces.length := by
  unfold row
  cases hc : s.closing? i with
  | none => rw [Option.getD_none, length_lines]; omega
  | some j => have := closing_bounds hc; omega

/-! ## What the scan gives -/

/-- The white space in front of members that stand in some lines, or else the usual one. -/
def indentOf (s : ClassSource) (members : List Text) : Text :=
  (memberIndent? members).getD (usualIndent s.column)

/-- **The scan** in terms of the two line numbers, however lines are counted. -/
theorem ofClassBy_eq (count : Nat → Nat) (hi : s.opening? = some i) :
    ofClassBy count s.symbol s.text = match s.closing? i with
      | some j => bounded (linesBetweenBy count (count (s.firstLine + i)) (count (s.firstLine + j)))
          (s.indentOf (s.between i j))
      | none =>
        let next := count (count (s.firstLine + i) + 1)
        openEnded ⟨⟨next, 0⟩, ⟨max (count (s.firstLine + (s.lines.length - 1))) next, 0⟩⟩
          (s.indentOf (s.between i (s.row i))) := by
  have hv : (fromClassColumn s.symbol.range.start.character (linesOf s.text)).findIdx? isPublic = some i := hi
  unfold ofClassBy
  simp only [hv]
  cases hc : ((fromClassColumn s.symbol.range.start.character (linesOf s.text)).drop (i + 1)).findIdx?
      isAccess with
  | some k =>
    have hj : s.closing? i = some (i + 1 + k) := by
      unfold closing? views column lines
      rw [hc]
      rfl
    simp only [hj, indentOf, between, firstLine, column, lines]
    rw [show i + 1 + k - (i + 1) = k by omega]
    simp only [Nat.add_assoc]
  | none =>
    have hj : s.closing? i = none := by
      unfold closing? views column lines
      rw [hc]
      rfl
    have ht : s.row i - (i + 1) = (linesOf s.text).length - 1 - (i + 1) := by
      rw [row, hj, Option.getD_none, lines]
      omega
    simp only [hj, indentOf, between, firstLine, column, lines, ht]

/-- The row of a section that is not closed. -/
theorem firstLine_add_row (hj : s.closing? i = none) :
    max (s.firstLine + (s.lines.length - 1)) (s.firstLine + i + 1) = s.firstLine + s.row i := by
  rw [row, hj, Option.getD_none]
  omega

theorem publicPart_eq (hi : s.opening? = some i) :
    s.publicPart = match s.closing? i with
      | some j => bounded (linesBetween (s.firstLine + i) (s.firstLine + j)) (s.indentOf (s.between i j))
      | none => openEnded ⟨⟨s.firstLine + i + 1, 0⟩, ⟨s.firstLine + s.row i, 0⟩⟩
          (s.indentOf (s.between i (s.row i))) := by
  refine (ofClassBy_eq id hi).trans ?_
  cases hj : s.closing? i with
  | some j => rfl
  | none => simp only [id, firstLine_add_row hj]

theorem ofClassBy_eq_missing (count : Nat → Nat) (h : s.opening? = none) :
    ofClassBy count s.symbol s.text = missing (usualIndent s.column) := by
  have hv : (fromClassColumn s.symbol.range.start.character (linesOf s.text)).findIdx? isPublic = none := h
  simp [ofClassBy, hv, column]

theorem publicPart_eq_missing (h : s.opening? = none) : s.publicPart = missing (usualIndent s.column) :=
  ofClassBy_eq_missing id h

/-- New members go to the start of a line. -/
theorem insertionPoint_eq (hi : s.opening? = some i) (otherwise : Position) :
    s.publicPart.insertionPoint otherwise = ⟨s.firstLine + s.row i, 0⟩ := by
  rw [publicPart_eq hi]
  cases hj : s.closing? i with
  | none => rfl
  | some j =>
    have hr : s.row i = j := by rw [row, hj]; rfl
    have := (closing_bounds hj).1
    simp only [insertionPoint, insertionPointBy, linesBetween, linesBetweenBy, hr, id]
    split <;> simp [Range.at] <;> omega

theorem point_eq (hi : s.opening? = some i) : s.point = ⟨s.firstLine + s.row i, 0⟩ := insertionPoint_eq hi _

theorem indent_eq (hi : s.opening? = some i) : s.publicPart.indent = s.indentOf (s.between i (s.row i)) := by
  rw [publicPart_eq hi]
  cases hj : s.closing? i with
  | none => rfl
  | some j =>
    have hr : s.row i = j := by rw [row, hj]; rfl
    simp [indent, hr]

end ClassSource
end Classwright
