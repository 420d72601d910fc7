import Classwright.Proofs.Document.Table
/-!
# What a change replaces

The text that a range covers stands between two cuts of the document (`exists_cut_textIn`). A change
of the range puts its text there when the document has both lines of the range. When one of them is
behind the last line nothing is replaced, although reading such a range takes it up to the end
(`text_applyChanges_iff`).
-/
namespace Classwright.Document

open Text

variable {d : Document} {r : Range}

theorem exists_cut_textIn (hd : d.lineStarts = lineStartsOf d.text) (r : Range) :
    ∃ before after, d.text = before ++ (d.textIn r ++ after) ∧ d.clampedOffset r.start = before.bytes ∧
      max (d.clampedOffset r.stop) (d.clampedOffset r.start) = before.bytes + (d.textIn r).bytes := by
  obtain ⟨a, m, b, ht, h1, h2⟩ := isStretch_iff.1 ((sound_of_lineStarts hd).ranges r)
  have hm : d.textIn r = m := by
    unfold textIn
    simp only [h2]
    rw [h1, ht, slice_bytes]
  exact ⟨a, b, by rw [hm, ht], h1, by rw [hm, h2]⟩

theorem splice_bytes {start stop : Nat} {a m b : Text} (x : Text) (h1 : start = a.bytes)
    (h2 : max stop start = a.bytes + m.bytes) : splice (a ++ (m ++ b)) start stop x = a ++ (x ++ b) := by
  rw [splice, h2, h1, splitBytes_bytes, ← bytes_append, ← List.append_assoc a m b, splitBytes_bytes, List.append_assoc]

/-- A change replaces what its range covers when its lines are there. -/
theorem apply_of_lines (h1 : r.start.line < d.lineCount) (h2 : r.stop.line < d.lineCount) (x : Text) :
    d.apply ⟨some r, x⟩ = d.withText (splice d.text (d.clampedOffset r.start) (d.clampedOffset r.stop) x) := by
  obtain ⟨start, hs⟩ := Option.ne_none_iff_exists'.1 fun h => Nat.not_le_of_lt h1 (offsetOf_eq_none_iff.1 h)
  obtain ⟨stop, ht⟩ := Option.ne_none_iff_exists'.1 fun h => Nat.not_le_of_lt h2 (offsetOf_eq_none_iff.1 h)
  simp only [apply, clampedOffset, hs, ht, Option.getD_some]

theorem apply_of_missing_line (h : d.lineCount ≤ r.start.line ∨ d.lineCount ≤ r.stop.line) (x : Text) :
    d.apply ⟨some r, x⟩ = d := by
  rw [← offsetOf_eq_none_iff, ← offsetOf_eq_none_iff] at h
  unfold apply
  simp only
  split
  · next hs ht => simp [hs, ht] at h
  · rfl

/-- **A change of a range** replaces the text that the range covers exactly when the document has the
lines on which the range starts and ends, or when there is nothing to change. A range with another
line leaves the text as it is. The version is the new one in any case. -/
theorem text_applyChanges_iff (hd : d.Reachable) (r : Range) (x : Text) (version : Int) :
    (d.applyChanges [⟨some r, x⟩] version).version = version ∧
    (d.lineCount ≤ r.start.line ∨ d.lineCount ≤ r.stop.line → (d.applyChanges [⟨some r, x⟩] version).text = d.text) ∧
    ∃ before after, d.text = before ++ (d.textIn r ++ after) ∧ before.bytes = d.clampedOffset r.start ∧
      ((d.applyChanges [⟨some r, x⟩] version).text = before ++ (x ++ after) ↔
        (r.start.line < d.lineCount ∧ r.stop.line < d.lineCount) ∨ x = d.textIn r) := by
  have htext : (d.applyChanges [⟨some r, x⟩] version).text = (d.apply ⟨some r, x⟩).text := rfl
  obtain ⟨before, after, ht, h1, h2⟩ := exists_cut_textIn hd.lineStarts r
  refine ⟨rfl, fun h => by rw [htext, apply_of_missing_line h], before, after, ht, h1.symm, ?_⟩
  rw [htext]
  by_cases hl : r.start.line < d.lineCount ∧ r.stop.line < d.lineCount
  · have happly : (d.apply ⟨some r, x⟩).text = before ++ (x ++ after) := by
      rw [apply_of_lines hl.1 hl.2]
      show splice d.text (d.clampedOffset r.start) (d.clampedOffset r.stop) x = before ++ (x ++ after)
      rw [← splice_bytes x h1 h2, ← ht]
    simp [happly, hl]
  · -- the text stays, so only the text that was there counts as put there
    have hm : d.lineCount ≤ r.start.line ∨ d.lineCount ≤ r.stop.line := by
      rw [← Nat.not_lt, ← Nat.not_lt, ← not_and_or]
      exact hl
    rw [apply_of_missing_line hm]
    constructor
    · intro h
      refine Or.inr ?_
      rw [ht, List.append_cancel_left_eq, List.append_cancel_right_eq] at h
      exact h.symm
    · rintro (h | rfl)
      · exact absurd h hl
      · exact ht

def twoLines : Document := .new "cpp" "int a;\nint b;" 1

theorem text_applyChanges_twoLines :
    twoLines.Reachable ∧
    (twoLines.applyChanges [⟨some ⟨⟨0, 4⟩, ⟨1, 3⟩⟩, "x, "⟩] 2).text = "int x,  b;" ∧
    (twoLines.applyChanges [⟨some ⟨⟨0, 0⟩, ⟨2, 0⟩⟩, "int c;"⟩] 2).text = twoLines.text := by
  have hd : twoLines.Reachable := .new ..
  obtain ⟨-, -, before, after, ht, hb, h⟩ := text_applyChanges_iff hd ⟨⟨0, 4⟩, ⟨1, 3⟩⟩ "x, " 2
  have hcut : before = "int " ∧ after = " b;" := by
    have e : before ++ (twoLines.textIn ⟨⟨0, 4⟩, ⟨1, 3⟩⟩ ++ after) = "int ".toList ++ "a;\nint b;".toList := by
      rw [← ht]
      rfl
    obtain ⟨rfl, h2⟩ := eq_of_bytes_eq e (by rw [hb]; decide)
    have h3 : "a;\nint".toList ++ after = "a;\nint".toList ++ " b;".toList := h2
    exact ⟨rfl, List.append_cancel_left h3⟩
  refine ⟨hd, ?_, (text_applyChanges_iff hd ⟨⟨0, 0⟩, ⟨2, 0⟩⟩ "int c;" 2).2.1 (by decide)⟩
  rw [h.2 (Or.inl (by decide)), hcut.1, hcut.2]
  rfl

/-- A change up to the line behind the last one is not made. -/
theorem text_applyChanges_behind_end :
    ¬ ∀ (d : Document) (r : Range) (x : Text) (version : Int), d.Reachable →
      ∃ before after, d.text = before ++ (d.textIn r ++ after) ∧ before.bytes = d.clampedOffset r.start ∧
        (d.applyChanges [⟨some r, x⟩] version).text = before ++ (x ++ after) := by
  intro h
  obtain ⟨before, after, ht, -, hx⟩ := h twoLines ⟨⟨0, 0⟩, ⟨2, 0⟩⟩ "int c;" 2 (.new ..)
  -- the range covers the whole document, but the whole document is still there
  have hall : (twoLines.textIn ⟨⟨0, 0⟩, ⟨2, 0⟩⟩).length = 13 := by decide
  have hstays : (twoLines.applyChanges [⟨some ⟨⟨0, 0⟩, ⟨2, 0⟩⟩, "int c;"⟩] 2).text.length = 13 := by decide
  have hlen : twoLines.text.length = 13 := by decide
  rw [ht] at hlen
  rw [hx] at hstays
  have hsix : "int c;".toList.length = 6 := by decide
  simp only [List.length_append] at hlen hstays
  omega

end Classwright.Document
