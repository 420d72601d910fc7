import Classwright.Proofs.Document.Table
/-!
# Offsets and positions are inverse

Reading a text up to a cut gives the position of the cut, counting bytes gives its offset, and a document
finds each of them from the other (`positionOf_bytes`, `offsetOf_after`). Longer beginnings of a text have
later positions and greater offsets, so both maps keep the order. A position inside a character or behind the
end of its line stands for the next column of the line that is between characters (`Reachable.inverse`).
-/
namespace Classwright

variable {p q r : Position} {t a b a' b' : Text} {d : Document}

/-! ## The order of positions -/

namespace Position

theorem le_iff : p.le q = true ↔ p.line < q.line ∨ p.line = q.line ∧ p.character ≤ q.character := by
  simp [le]

theorem le_trans (h1 : p.le q = true) (h2 : q.le r = true) : p.le r = true := by
  rw [le_iff] at h1 h2 ⊢
  omega

/-- A character leads to a later position. -/
theorem next_cases (p : Position) (c : Char) : p.line < (p.next c).line ∨
    p.line = (p.next c).line ∧ p.character < (p.next c).character := by
  obtain ⟨k, hk⟩ := Text.unitsOf_eq_succ c
  by_cases hc : c = '\n'
  · subst hc
    exact Or.inl (Nat.lt_succ_self _)
  · rw [next_of_ne hc]
    exact Or.inr ⟨rfl, by simp only; omega⟩

theorem le_next (p : Position) (c : Char) : p.le (p.next c) = true := by
  have := next_cases p c
  rw [le_iff]
  omega

theorem not_next_le (p : Position) (c : Char) : ¬ (p.next c).le p = true := by
  have := next_cases p c
  rw [le_iff]
  omega

theorem le_after (p : Position) (t : Text) : p.le (p.after t) = true := by
  induction t generalizing p with
  | nil => simp [le_iff]
  | cons c t ih => exact le_trans (le_next p c) (ih _)

theorem not_after_le (ht : t ≠ []) (p : Position) : ¬ (p.after t).le p = true := by
  obtain ⟨c, t, rfl⟩ := List.exists_cons_of_ne_nil ht
  exact fun h => not_next_le p c (le_trans (le_after _ t) h)

/-- **Longer beginnings** of a text have later positions. -/
theorem after_le_after_iff (h : a ++ b = a' ++ b') : (origin.after a).le (origin.after a') = true ↔ a.bytes ≤ a'.bytes := by
  rcases List.append_eq_append_iff.1 h with ⟨m, rfl, -⟩ | ⟨m, rfl, -⟩
  · rw [after_append, Text.bytes_append]
    exact iff_of_true (le_after _ m) (Nat.le_add_right ..)
  · rw [after_append, Text.bytes_append]
    cases m with
    | nil => simp [le_iff]
    | cons c m =>
      have hpos := c.utf8Size_pos
      refine iff_of_false (not_after_le (by simp) _) ?_
      rw [Text.bytes_cons]
      omega

/-- Lines and columns are counted in units. -/
theorem line_add_character_after_le (p : Position) (t : Text) :
    (p.after t).line + (p.after t).character ≤ p.line + p.character + t.units := by
  induction t generalizing p with
  | nil => exact Nat.le_refl _
  | cons c t ih =>
    have hnext : (p.next c).line + (p.next c).character ≤ p.line + p.character + Text.unitsOf c := by
      obtain ⟨k, hk⟩ := Text.unitsOf_eq_succ c
      rw [next]
      split <;> simp only <;> omega
    have hrest := ih (p.next c)
    rw [after_cons, Text.units_cons]
    omega

end Position

/-! ## Columns between characters -/

namespace Text

theorem le_units_splitAtColumn (t : Text) (column : Nat) : min column t.units ≤ (t.splitAtColumn column).1.units := by
  induction t generalizing column with
  | nil => exact Nat.min_le_right ..
  | cons c t ih =>
    cases column with
    | zero => exact Nat.min_le_left ..
    | succ n =>
      have := ih (n + 1 - unitsOf c)
      simp only [splitAtColumn, units_cons]
      omega

/-- **A split at a column** takes no more characters than it needs to come to the column. -/
theorem units_splitAtColumn_le {column : Nat} (h : min column (units (a ++ b)) ≤ a.units) :
    (splitAtColumn (a ++ b) column).1.units ≤ a.units := by
  induction a generalizing column with
  | nil =>
    cases b with
    | nil => exact Nat.le_refl 0
    | cons c b =>
      obtain ⟨k, hk⟩ := unitsOf_eq_succ c
      obtain rfl : column = 0 := by
        simp only [List.nil_append, units_cons, units_nil] at h
        omega
      exact Nat.le_refl 0
  | cons c a ih =>
    cases column with
    | zero => exact Nat.zero_le _
    | succ n =>
      simp only [List.cons_append, units_cons] at h
      have hrest : min (n + 1 - unitsOf c) (units (a ++ b)) ≤ units a := by omega
      have := ih hrest
      simp only [List.cons_append, splitAtColumn, units_cons]
      omega

end Text

namespace Document

open Text

/-! ## The position of a cut -/

theorem startsAfter_append (offset : Nat) (a b : Text) :
    startsAfter offset (a ++ b) = startsAfter offset a ++ startsAfter (offset + a.bytes) b := by
  induction a generalizing offset with
  | nil => rfl
  | cons c a ih =>
    have h1 : Char.utf8Size '\n' = 1 := by decide
    rw [List.cons_append, startsAfter, startsAfter, bytes_cons, ← Nat.add_assoc]
    split
    · next hc => rw [ih, hc, h1, List.cons_append]
    · rw [ih]

theorem le_of_mem_startsAfter {offset s : Nat} (h : s ∈ startsAfter offset t) : s ≤ offset + t.bytes := by
  induction t generalizing offset with
  | nil => cases h
  | cons c t ih =>
    have hpos := c.utf8Size_pos
    rw [bytes_cons]
    unfold startsAfter at h
    split at h
    · rcases List.mem_cons.1 h with rfl | h
      · omega
      · have := ih h
        omega
    · have := ih h
      omega

/-- The lines that start in front of a cut are those of the text in front of it. -/
theorem takeWhile_lineStartsOf (a b : Text) : (lineStartsOf (a ++ b)).takeWhile (· ≤ a.bytes) = lineStartsOf a := by
  have hfront : ∀ s ∈ lineStartsOf a, decide (s ≤ a.bytes) = true := by
    intro s hs
    rcases List.mem_cons.1 hs with rfl | hs
    · simp
    · have := le_of_mem_startsAfter hs
      simp only [decide_eq_true_eq]
      omega
  have hback : (startsAfter a.bytes b).takeWhile (· ≤ a.bytes) = [] := by
    cases hb : startsAfter a.bytes b with
    | nil => rfl
    | cons s rest =>
      have hlt : a.bytes < s := lt_of_mem_startsAfter (t := b) (by rw [hb]; exact List.mem_cons_self ..)
      rw [List.takeWhile_cons, if_neg (by simpa using hlt)]
  have hsplit : lineStartsOf (a ++ b) = lineStartsOf a ++ startsAfter a.bytes b := by
    rw [lineStartsOf, startsAfter_append, Nat.zero_add]
    rfl
  rw [hsplit, List.takeWhile_append_of_pos hfront, hback, List.append_nil]

/-- **The position of a cut** is the one behind what stands before it. -/
theorem positionOf_bytes (hd : d.lineStarts = lineStartsOf d.text) (h : d.text = a ++ b) :
    d.positionOf a.bytes = some (Position.origin.after a) := by
  obtain ⟨front, x, ha⟩ := exists_pieces_eq_concat a
  have hline : d.lineOf a.bytes = front.length := by
    rw [lineOf, hd, h, takeWhile_lineStartsOf, lineStartsOf, List.length_cons, length_startsAfter, ha]
    simp
  have hstart : d.lineStarts.getD front.length 0 = (wholeLines front).bytes := by
    obtain ⟨y, more, hb⟩ := List.exists_cons_of_ne_nil (pieces_ne_nil b)
    rw [List.getD_eq_getElem?_getD, hd, getElem?_lineStartsOf, h, pieces_append ha hb]
    simp
  have hslice : d.text.slice (wholeLines front).bytes a.bytes = x := by
    rw [h, eq_wholeLines_append ha, List.append_assoc, bytes_append, slice_bytes]
  have hle : a.bytes ≤ d.text.bytes := by
    rw [h, bytes_append]
    exact Nat.le_add_right ..
  rw [positionOf, Nat.min_eq_left hle, if_pos (by rw [h]; exact isBoundary_bytes a b), positionInside, hline, hstart, hslice,
    Position.after_eq _ ha]
  simp [Position.origin]

theorem exists_cut_of_positionOf (hd : d.lineStarts = lineStartsOf d.text) {o : Nat} (h : d.positionOf o = some p) :
    ∃ a b, d.text = a ++ b ∧ min o d.text.bytes = a.bytes ∧ p = Position.origin.after a := by
  have hb : d.text.isBoundary (min o d.text.bytes) = true := by
    by_contra hb
    rw [positionOf, if_neg hb] at h
    cases h
  obtain ⟨a, b, ht, ha⟩ := isBoundary_iff.1 hb
  have hclamp : d.positionOf o = d.positionOf a.bytes := by
    rw [← ha, positionOf, positionOf, Nat.min_assoc, Nat.min_self]
  rw [hclamp, positionOf_bytes hd ht] at h
  exact ⟨a, b, ht, ha, (Option.some.inj h).symm⟩

/-! ## The position that a position stands for -/

/-- The column that a position stands for: the least one of its line between characters that is not in front of it,
where a position behind the end of the line is at the end. -/
structure IsColumnOf (d : Document) (p : Position) (k : Nat) : Prop where
  between : d.text.HasPosition ⟨p.line, k⟩
  reached : ∀ line, d.text.pieces[p.line]? = some line → min p.character line.units ≤ k
  least : ∀ k' line, d.text.pieces[p.line]? = some line → d.text.HasPosition ⟨p.line, k'⟩ → min p.character line.units ≤ k' →
    k ≤ k'

/-- The offset of a position is the one of a cut, in the column that the position stands for. -/
theorem exists_cut_of_line (hd : d.lineStarts = lineStartsOf d.text) (h : p.line < d.lineCount) :
    ∃ a b k, d.text = a ++ b ∧ d.offsetOf p = some a.bytes ∧ Position.origin.after a = ⟨p.line, k⟩ ∧ d.IsColumnOf p k := by
  rw [lineCount_eq hd] at h
  obtain ⟨line, hline⟩ : ∃ line, d.text.pieces[p.line]? = some line := ⟨_, List.getElem?_eq_getElem h⟩
  have hsplit := splitAtColumn_append line p.character
  generalize hx : (line.splitAtColumn p.character).1 = x at hsplit
  generalize (line.splitAtColumn p.character).2 = y at hsplit
  have hn : '\n' ∉ x := fun hm => notMem_of_mem_pieces (List.mem_of_getElem? hline) (hsplit ▸ List.mem_append_left y hm)
  have hfront : ∀ l ∈ d.text.pieces.take p.line, '\n' ∉ l := fun l hl => notMem_of_mem_pieces (List.mem_of_mem_take hl)
  have hlength : (d.text.pieces.take p.line).length = p.line := List.length_take_of_le (Nat.le_of_lt h)
  obtain ⟨rest, ht, -⟩ := exists_eq_wholeLines_append hline
  have hpieces : d.text.pieces = d.text.pieces.take p.line ++ line :: d.text.pieces.drop (p.line + 1) := by
    obtain ⟨-, rfl⟩ := List.getElem?_eq_some_iff.1 hline
    rw [← List.drop_eq_getElem_cons h, List.take_append_drop]
  have hbetween : d.text.HasPosition ⟨p.line, x.units⟩ := ⟨x, y, by rw [hline, hsplit], rfl⟩
  refine ⟨wholeLines (d.text.pieces.take p.line) ++ x, y ++ rest, x.units, ?_, ?_, ?_, hbetween, ?_, ?_⟩
  · conv_lhs => rw [ht, ← hsplit]
    simp
  · rw [offsetOf_eq hd hpieces hlength, byteColumn, hx, bytes_append]
  · rw [Position.after_append, Position.origin_after_wholeLines hfront, Position.after_of_notMem hn, hlength, Nat.zero_add]
  · intro line' hline'
    obtain rfl := Option.some.inj (hline.symm.trans hline')
    rw [← hx]
    exact le_units_splitAtColumn line p.character
  · rintro k' line' hline' ⟨x', y', hxy, rfl⟩ hle
    obtain rfl := Option.some.inj (hline.symm.trans hline')
    obtain rfl := Option.some.inj (hline.symm.trans hxy)
    rw [← hx]
    exact units_splitAtColumn_le hle

/-- A later position on the line stands for no earlier column. -/
theorem IsColumnOf.le {k k' : Nat} (h : d.IsColumnOf p k) (h' : d.IsColumnOf q k') (hline : p.line = q.line)
    (hle : p.character ≤ q.character) : k ≤ k' := by
  obtain ⟨x, y, hxy, -⟩ := h.between
  have hreached := h'.reached _ (hline ▸ hxy)
  exact h.least k' _ hxy (hline ▸ h'.between) (by omega)

/-! ## Both ways -/

/-- Offsets and positions are found from each other and in the same order. -/
structure Inverse (d : Document) : Prop where
  /-- The position of an offset between characters has this offset. -/
  offsets : ∀ o, d.text.isBoundary o = true → ∃ p, d.positionOf o = some p ∧ d.offsetOf p = some o
  /-- The offset of a position on a line has the position that it stands for. -/
  positions : ∀ p, p.line < d.lineCount → ∃ o k, d.offsetOf p = some o ∧ d.positionOf o = some ⟨p.line, k⟩ ∧ d.IsColumnOf p k
  positionsMonotone : ∀ o o' p p', d.positionOf o = some p → d.positionOf o' = some p' → o ≤ o' → p.le p' = true
  offsetsMonotone : ∀ p p' o o', d.offsetOf p = some o → d.offsetOf p' = some o' → p.le p' = true → o ≤ o'
  /-- No line and no column is greater than the number of units of the text. -/
  counts : ∀ o p, d.positionOf o = some p → p.line + p.character ≤ d.text.units

theorem le_of_offsetOf (hd : d.lineStarts = lineStartsOf d.text) {o o' : Nat} (h : d.offsetOf p = some o)
    (h' : d.offsetOf q = some o') (hle : p.le q = true) : o ≤ o' := by
  have hline {p : Position} {o : Nat} (h : d.offsetOf p = some o) : p.line < d.lineCount :=
    Nat.not_le.1 fun hle => by rw [offsetOf_eq_none_iff.2 hle] at h; cases h
  obtain ⟨a, b, k, ht, ha, hak, hk⟩ := exists_cut_of_line hd (hline h)
  obtain ⟨a', b', k', ht', ha', hak', hk'⟩ := exists_cut_of_line hd (hline h')
  obtain rfl := Option.some.inj (h.symm.trans ha)
  obtain rfl := Option.some.inj (h'.symm.trans ha')
  rw [← Position.after_le_after_iff (ht.symm.trans ht'), hak, hak', Position.le_iff]
  rcases Position.le_iff.1 hle with hlt | ⟨heq, hc⟩
  · exact Or.inl hlt
  · exact Or.inr ⟨heq, hk.le hk' heq hc⟩

theorem inverse_of_lineStarts (hd : d.lineStarts = lineStartsOf d.text) : d.Inverse where
  offsets o ho := by
    obtain ⟨a, b, ht, rfl⟩ := isBoundary_iff.1 ho
    exact ⟨_, positionOf_bytes hd ht, offsetOf_after hd ht⟩
  positions p hp := by
    obtain ⟨a, b, k, ht, ho, hak, hk⟩ := exists_cut_of_line hd hp
    exact ⟨a.bytes, k, ho, by rw [positionOf_bytes hd ht, hak], hk⟩
  positionsMonotone o o' p p' h h' hle := by
    obtain ⟨a, b, ht, ha, rfl⟩ := exists_cut_of_positionOf hd h
    obtain ⟨a', b', ht', ha', rfl⟩ := exists_cut_of_positionOf hd h'
    rw [Position.after_le_after_iff (ht.symm.trans ht')]
    omega
  offsetsMonotone _ _ _ _ h h' hle := le_of_offsetOf hd h h' hle
  counts o p h := by
    obtain ⟨a, b, ht, -, rfl⟩ := exists_cut_of_positionOf hd h
    have hcount := Position.line_add_character_after_le .origin a
    rw [ht, units_append]
    simp only [Position.origin] at hcount ⊢
    omega

/-- **Offsets and positions are inverse** in a document, whatever changes it went through. -/
theorem Reachable.inverse (h : d.Reachable) : d.Inverse := inverse_of_lineStarts h.lineStarts

/-- A column inside the character of two units stands for the one behind it. -/
theorem inverse_accents :
    let d := new "cpp" "é𝄞\nx" 1
    d.Reachable ∧ d.Inverse ∧ d.offsetOf ⟨0, 2⟩ = some 6 ∧ d.positionOf 6 = some ⟨0, 3⟩ ∧ d.IsColumnOf ⟨0, 2⟩ 3 := by
  intro d
  have h : d.Reachable := .new ..
  have ho : d.offsetOf ⟨0, 2⟩ = some 6 := by decide
  have hp : d.positionOf 6 = some ⟨0, 3⟩ := by decide
  obtain ⟨o, k, ho', hp', hk⟩ := h.inverse.positions ⟨0, 2⟩ (by decide)
  obtain rfl := Option.some.inj (ho.symm.trans ho')
  obtain rfl : 3 = k := congrArg Position.character (Option.some.inj (hp.symm.trans hp'))
  exact ⟨h, h.inverse, ho, hp, hk⟩

end Document
end Classwright
