import Classwright.Document.Basic
import Classwright.Proofs.Text.Place
/-!
# Offsets in a document

The table of line starts of a document that was opened and edited is the one of its text
(`Reachable.lineStarts`), and with it the position of a cut of the text has the bytes before the cut
as its offset (`offsetOf_after`). So a range between two positions of the text covers what stands
between them (`exists_textIn`).
-/
namespace Classwright.Document

open Text

/-- What a document can become after it was opened. -/
inductive Reachable : Document → Prop
  | new (languageId text : Text) (version : Int) : Reachable (new languageId text version)
  | setContent {d : Document} (text : Text) (version : Int) : Reachable d → Reachable (d.setContent text version)
  | applyChanges {d : Document} (changes : List Change) (version : Int) :
    Reachable d → Reachable (d.applyChanges changes version)

variable {d : Document}

/-! ## The table of line starts -/

theorem lineStarts_apply (h : d.lineStarts = lineStartsOf d.text) (c : Change) :
    (d.apply c).lineStarts = lineStartsOf (d.apply c).text := by
  unfold apply
  cases c.range with
  | none => rfl
  | some r =>
    simp only
    split
    · rfl
    · exact h

theorem lineStarts_foldl_apply (h : d.lineStarts = lineStartsOf d.text) (changes : List Change) :
    (changes.foldl apply d).lineStarts = lineStartsOf (changes.foldl apply d).text := by
  induction changes generalizing d with
  | nil => exact h
  | cons c changes ih => exact ih (lineStarts_apply h c)

/-- Every change leaves the table of the new text. -/
theorem Reachable.lineStarts (h : d.Reachable) : d.lineStarts = lineStartsOf d.text := by
  induction h with
  | new => rfl
  | setContent => rfl
  | applyChanges changes version _ ih => exact lineStarts_foldl_apply ih changes

theorem getElem?_startsAfter (offset : Nat) (t : Text) (n : Nat) :
    (startsAfter offset t)[n]? =
      if n + 1 < t.pieces.length then some (offset + (wholeLines (t.pieces.take (n + 1))).bytes) else none := by
  induction t generalizing offset n with
  | nil => simp [startsAfter]
  | cons c t ih =>
    by_cases hc : c = '\n'
    · subst hc
      have h1 : Char.utf8Size '\n' = 1 := by decide
      simp only [startsAfter, if_true, pieces_newline, List.length_cons, List.take_succ_cons]
      cases n with
      | zero => simp [wholeLines, pieces_ne_nil, h1]
      | succ n =>
        rw [List.getElem?_cons_succ, ih]
        simp only [Nat.add_lt_add_iff_right]
        simp only [wholeLines_cons, List.nil_append, bytes_cons, h1, Nat.add_assoc]
    · obtain ⟨first, more, h1, h2⟩ := pieces_cons_of_ne hc t
      simp only [startsAfter, hc, if_false]
      rw [ih, h1, h2]
      simp only [List.length_cons, List.take_succ_cons, wholeLines_cons, List.cons_append, bytes_cons, Nat.add_assoc]

/-- Line `n` starts behind the `n` lines before it. -/
theorem getElem?_lineStartsOf (t : Text) (n : Nat) :
    (lineStartsOf t)[n]? = if n < t.pieces.length then some (wholeLines (t.pieces.take n)).bytes else none := by
  cases n with
  | zero =>
    simp [lineStartsOf, length_pieces_pos t, wholeLines]
  | succ n => simp [lineStartsOf, getElem?_startsAfter]

theorem lineEnd_eq (hd : d.lineStarts = lineStartsOf d.text) {n : Nat} {line : Text} (h : d.text.pieces[n]? = some line) :
    d.lineEnd n = (wholeLines (d.text.pieces.take n)).bytes + line.bytes := by
  obtain ⟨hn, hl⟩ := List.getElem?_eq_some_iff.1 h
  unfold lineEnd
  rw [hd, getElem?_lineStartsOf]
  by_cases hn1 : n + 1 < d.text.pieces.length
  · have h1 : Char.utf8Size '\n' = 1 := by decide
    simp only [hn1, if_true]
    rw [List.take_add_one, h, Option.toList_some, wholeLines_concat]
    simp [h1]
  · -- the last line ends with the text
    have hp : d.text.pieces = d.text.pieces.take n ++ [line] := by
      rw [← hl, List.take_append_getElem]
      exact (List.take_of_length_le (by omega)).symm
    simp only [hn1, if_false]
    rw [← bytes_append, ← eq_wholeLines_append hp]

/-! ## Positions and offsets -/

/-- The offset of a position counts the lines before its line and the part of it before the column. -/
theorem offsetOf_eq (hd : d.lineStarts = lineStartsOf d.text) {p : Position} {line : Text} {front back : List Text}
    (h : d.text.pieces = front ++ line :: back) (hp : front.length = p.line) :
    d.offsetOf p = some ((wholeLines front).bytes + line.byteColumn p.character) := by
  have hline : d.text.pieces[p.line]? = some line := by rw [h, ← hp]; simp
  have htake : d.text.pieces.take p.line = front := by rw [h, ← hp]; simp
  have hstart : d.lineStarts[p.line]? = some (wholeLines front).bytes := by
    rw [hd, getElem?_lineStartsOf, htake, if_pos]
    rw [h, ← hp]
    simp
  obtain ⟨rest, ht, -⟩ := exists_eq_wholeLines_append hline
  have hslice : d.text.slice (wholeLines front).bytes (d.lineEnd p.line) = line := by
    rw [lineEnd_eq hd hline, htake]
    conv_lhs => rw [ht, htake, List.append_assoc]
    exact slice_bytes ..
  rw [offsetOf, hstart]
  simp only [Option.bind_eq_bind, Option.bind_some, hslice]
  rfl

theorem offsetOf_getElem (hd : d.lineStarts = lineStartsOf d.text) {p : Position} (h : p.line < d.text.pieces.length) :
    d.offsetOf p = some ((wholeLines (d.text.pieces.take p.line)).bytes + d.text.pieces[p.line].byteColumn p.character) := by
  have hsplit : d.text.pieces = d.text.pieces.take p.line ++ d.text.pieces[p.line] :: d.text.pieces.drop (p.line + 1) := by
    rw [← List.drop_eq_getElem_cons h, List.take_append_drop]
  exact offsetOf_eq hd hsplit (List.length_take_of_le (Nat.le_of_lt h))

/-- **The offset of a cut** is what stands before it, in bytes. -/
theorem offsetOf_after (hd : d.lineStarts = lineStartsOf d.text) {a b : Text} (h : d.text = a ++ b) :
    d.offsetOf (Position.origin.after a) = some a.bytes := by
  obtain ⟨front, x, ha⟩ := exists_pieces_eq_concat a
  obtain ⟨y, more, hb⟩ := List.exists_cons_of_ne_nil (pieces_ne_nil b)
  have hpos : Position.origin.after a = ⟨front.length, x.units⟩ := by
    rw [Position.after_eq _ ha]
    simp [Position.origin]
  rw [hpos, offsetOf_eq hd (by rw [h, pieces_append ha hb]) rfl, byteColumn_units, eq_wholeLines_append ha, bytes_append]

/-- **A range covers what stands between its ends.** Behind its start the text of the range leads to
its end, unless the range has no text. -/
theorem exists_textIn (hd : d.lineStarts = lineStartsOf d.text) {r : Range} (h1 : d.text.HasPosition r.start)
    (h2 : d.text.HasPosition r.stop) (hne : d.textIn r ≠ []) :
    ∃ a b, d.text = a ++ (d.textIn r ++ b) ∧ Position.origin.after a = r.start ∧ r.stop = r.start.after (d.textIn r) := by
  obtain ⟨a, b, hab, ha⟩ := exists_cut_of_hasPosition h1
  obtain ⟨a', b', hab', ha'⟩ := exists_cut_of_hasPosition h2
  have ho : d.clampedOffset r.start = a.bytes := by rw [← ha, clampedOffset, offsetOf_after hd hab]; rfl
  have ho' : d.clampedOffset r.stop = a'.bytes := by rw [← ha', clampedOffset, offsetOf_after hd hab']; rfl
  rcases List.append_eq_append_iff.1 (hab.symm.trans hab') with ⟨m, rfl, rfl⟩ | ⟨m, rfl, rfl⟩
  · have ht : d.textIn r = m := by
      rw [textIn, ho, ho', hab]
      simp only [bytes_append]
      rw [Nat.max_eq_left (by omega)]
      exact slice_bytes ..
    exact ⟨a, b', by rw [ht, hab], ha, by rw [ht, ← ha', ← ha, Position.after_append]⟩
  · refine absurd ?_ hne
    rw [textIn, ho, ho']
    simp only [bytes_append]
    rw [Nat.max_eq_right (by omega)]
    exact slice_self ..

end Classwright.Document
