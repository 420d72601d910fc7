import Classwright.Proofs.Document.Inverse
/-!
# Positions without a table

The position of a byte offset is found in three ways: by a search through the pieces between line feeds, by
counting line feeds among the bytes, and from the table of line starts that a document keeps. All of them
give the position of the same cut, the first one that is not in front of the offset (`Reachable.agrees`).
-/
namespace Classwright

variable {t a b : Text} {offset n : Nat} {d : Document}

namespace Text

/-! ## The first cut that is not in front of an offset -/

/-- The first boundary at or behind an offset; an offset behind the end of the text counts as the end. -/
structure IsNextBoundary (t : Text) (offset n : Nat) : Prop where
  boundary : t.isBoundary n = true
  reached : min offset t.bytes ≤ n
  least : ∀ m, t.isBoundary m = true → min offset t.bytes ≤ m → n ≤ m

theorem le_bytes_splitBytes (t : Text) (n : Nat) : min n t.bytes ≤ (t.splitBytes n).1.bytes := by
  induction t generalizing n with
  | nil => exact Nat.min_le_right ..
  | cons c t ih =>
    cases n with
    | zero => exact Nat.min_le_left ..
    | succ n =>
      have := ih (n + 1 - c.utf8Size)
      simp only [splitBytes, bytes_cons]
      omega

/-- A split at an offset takes no more characters than it needs to come to the offset. -/
theorem bytes_splitBytes_le (h : min n (bytes (a ++ b)) ≤ a.bytes) : (splitBytes (a ++ b) n).1.bytes ≤ a.bytes := by
  rw [← splitBytes_min, splitBytes_append_of_le h]
  have hsplit := congrArg bytes (splitBytes_append a (min n (bytes (a ++ b))))
  rw [bytes_append] at hsplit
  simp only
  omega

theorem isNextBoundary_splitBytes (t : Text) (offset : Nat) :
    t.IsNextBoundary offset (t.splitBytes offset).1.bytes where
  boundary := by
    have h := isBoundary_bytes (t.splitBytes offset).1 (t.splitBytes offset).2
    rwa [splitBytes_append] at h
  reached := le_bytes_splitBytes t offset
  least m hm hle := by
    obtain ⟨a, b, rfl, rfl⟩ := isBoundary_iff.1 hm
    exact bytes_splitBytes_le hle

/-! ## Line feeds among the bytes -/

theorem count_utf8OfChar (c : Char) : (utf8OfChar c).count 10 = if c = '\n' then 1 else 0 := by
  split
  · next hc => rw [hc]; decide
  · next hc => exact List.count_eq_zero.2 (newline_notMem_utf8OfChar hc)

/-- The first bytes of a text have the line feeds of the characters that begin among them. -/
theorem count_take_utf8 (t : Text) (n : Nat) : (t.utf8.take n).count 10 = (t.splitBytes n).1.count '\n' := by
  induction t generalizing n with
  | nil => simp [utf8, splitBytes]
  | cons c t ih =>
    cases n with
    | zero => simp
    | succ n =>
      have hsplit : utf8 (c :: t) = utf8OfChar c ++ utf8 t := rfl
      rw [hsplit, List.take_append, List.count_append, length_utf8OfChar, ih, splitBytes, List.count_cons, Nat.add_comm]
      congr 1
      by_cases hc : c = '\n'
      · subst hc
        rw [List.take_of_length_le (by rw [length_utf8OfChar]; exact Nat.succ_le_succ (Nat.zero_le n)), count_utf8OfChar]
        rfl
      · -- no byte of the character is a line feed, however many of them are taken
        rw [List.count_eq_zero.2 fun hm => newline_notMem_utf8OfChar hc (List.mem_of_mem_take hm)]
        simp [hc]

theorem lineAt_eq (t : Text) (offset : Nat) : t.lineAt offset = (t.positionAt offset).line := by
  rw [positionAt_eq, Position.line_after, lineAt, count_take_utf8]
  exact (Nat.zero_add _).symm

end Text

namespace Document

open Text

/-! ## The table and the scans -/

/-- What is found by scanning the text of a document is what the document finds with its table. -/
structure Agrees (d : Document) : Prop where
  /-- The search through the lines comes to an end at one of them. -/
  found : ∀ offset, (positionIn? 0 d.text.pieces (min offset d.text.bytes)).isSome
  positions : ∀ offset, ∃ n, d.text.IsNextBoundary offset n ∧ d.positionOf n = some (d.text.positionAt offset)
  lines : ∀ offset, d.text.lineAt offset = (d.text.positionAt offset).line
  stop : d.text.endPosition = d.endPosition
  /-- A column is counted from the start of its line. -/
  offsets : ∀ (p : Position) (line : Text), d.text.pieces[p.line]? = some line →
    d.offsetOf p = some ((wholeLines (d.text.pieces.take p.line)).bytes + line.byteColumn p.character)
  /-- No line and no column is greater than the number of units of the text. -/
  counts : ∀ offset, (d.text.positionAt offset).line + (d.text.positionAt offset).character ≤ d.text.units

theorem agrees_of_lineStarts (hd : d.lineStarts = lineStartsOf d.text) : d.Agrees where
  found offset := by
    rw [positionIn?_pieces (Nat.min_le_right ..)]
    rfl
  positions offset :=
    ⟨_, isNextBoundary_splitBytes d.text offset, by
      rw [positionAt_eq, positionOf_bytes hd (splitBytes_append d.text offset).symm]⟩
  lines offset := lineAt_eq d.text offset
  stop := by
    have h := positionOf_bytes hd (List.append_nil d.text).symm
    rw [positionOf, Nat.min_self] at h
    split at h
    · rw [endPosition_eq]
      exact (Option.some.inj h).symm
    · cases h
  offsets p line hline := by
    obtain ⟨hlt, rfl⟩ := List.getElem?_eq_some_iff.1 hline
    exact offsetOf_getElem hd hlt
  counts offset := by
    have hcount := Position.line_add_character_after_le .origin (d.text.splitBytes offset).1
    have hunits := congrArg units (splitBytes_append d.text offset)
    rw [units_append] at hunits
    rw [positionAt_eq]
    simp only [Position.origin] at hcount ⊢
    omega

/-- **Scans and the table agree** in a document, whatever changes it went through. -/
theorem Reachable.agrees (h : d.Reachable) : d.Agrees := agrees_of_lineStarts h.lineStarts

/-- An offset inside a character of three bytes stands for the one behind it, on the last line of the text. -/
theorem agrees_accents :
    let d := (new "cpp" "é𝄞\n" 1).applyChanges [⟨some (.at ⟨1, 0⟩), "x€"⟩] 2
    d.Reachable ∧ d.text.positionAt 9 = ⟨1, 2⟩ ∧ d.text.IsNextBoundary 9 11 ∧ d.positionOf 11 = some ⟨1, 2⟩ ∧
      d.text.lineAt 9 = 1 ∧ d.endPosition = ⟨1, 2⟩ ∧ d.offsetOf ⟨1, 1⟩ = some 8 := by
  intro d
  have h : d.Reachable := .applyChanges _ _ (.new ..)
  have hat : d.text.positionAt 9 = ⟨1, 2⟩ := by decide
  have hline : d.text.pieces[1]? = some "x€".toList := by decide
  obtain ⟨n, hn, hp⟩ := h.agrees.positions 9
  -- the offsets 9 and 10 are both inside the last character
  obtain rfl : n = 11 := by
    have hle : n ≤ 11 := hn.least 11 (by decide) (by decide)
    have hge : 9 ≤ n := hn.reached
    have h9 : n ≠ 9 := fun he => absurd (he ▸ hn.boundary) (by decide)
    have h10 : n ≠ 10 := fun he => absurd (he ▸ hn.boundary) (by decide)
    omega
  refine ⟨h, hat, hn, by rw [hp, hat], ?_, ?_, h.agrees.offsets ⟨1, 1⟩ _ hline⟩
  · rw [h.agrees.lines, hat]
  · rw [← h.agrees.stop]
    decide

end Document
end Classwright
