import Classwright.Proofs.Document.Offset
import Classwright.Proofs.Text.Stretch
/-!
# The table of line starts

The table lists the start of the text and the offset behind each of its line feeds, whatever changes
a document went through. With it every offset that a query or a change works with is on a boundary of
the text and in order, so that no slice leaves the text or cuts a character (`Reachable.sound_foldl_apply`).
-/
namespace Classwright.Document

open Text

variable {d : Document} {n start : Nat}

/-! ## Line feeds and line starts -/

theorem startsAfter_eq (offset : Nat) (t : Text) :
    startsAfter offset t = ((t.utf8.zipIdx offset).filter (·.1 == 10)).map (·.2 + 1) := by
  induction t generalizing offset with
  | nil => rfl
  | cons c t ih =>
    rw [utf8, List.flatMap_cons, ← utf8, List.zipIdx_append, List.filter_append, List.map_append, length_utf8OfChar,
      ← ih]
    by_cases hc : c = '\n'
    · subst hc
      rfl
    · -- none of the bytes of the character is a line feed
      have hf : ((utf8OfChar c).zipIdx offset).filter (·.1 == 10) = [] := by
        simp only [List.filter_eq_nil_iff, beq_iff_eq]
        rintro ⟨b, i⟩ hm rfl
        exact newline_notMem_utf8OfChar hc (List.fst_mem_of_mem_zipIdx hm)
      rw [hf, List.map_nil, List.nil_append, startsAfter, if_neg hc]

theorem lineStartsOf_eq (t : Text) : lineStartsOf t = 0 :: t.newlineOffsets.map (· + 1) := by
  rw [lineStartsOf, startsAfter_eq, newlineOffsets, List.map_map]
  rfl

theorem lt_of_mem_startsAfter {offset s : Nat} {t : Text} (h : s ∈ startsAfter offset t) : offset < s := by
  induction t generalizing offset with
  | nil => cases h
  | cons c t ih =>
    unfold startsAfter at h
    split at h
    · rcases List.mem_cons.1 h with rfl | h
      · omega
      · have := ih h
        omega
    · have := ih h
      omega

theorem pairwise_startsAfter (offset : Nat) (t : Text) : (startsAfter offset t).Pairwise (· < ·) := by
  induction t generalizing offset with
  | nil => exact List.Pairwise.nil
  | cons c t ih =>
    unfold startsAfter
    split
    · exact List.Pairwise.cons (fun s hs => lt_of_mem_startsAfter hs) (ih _)
    · exact ih _

theorem pairwise_lineStartsOf (t : Text) : (lineStartsOf t).Pairwise (· < ·) :=
  List.Pairwise.cons (fun _ hs => lt_of_mem_startsAfter hs) (pairwise_startsAfter 0 t)

theorem length_startsAfter (offset : Nat) (t : Text) : (startsAfter offset t).length + 1 = t.pieces.length := by
  induction t generalizing offset with
  | nil => rfl
  | cons c t ih =>
    by_cases hc : c = '\n'
    · subst hc
      rw [startsAfter, if_pos rfl, List.length_cons, ih, pieces_newline, List.length_cons]
    · obtain ⟨first, more, h1, h2⟩ := pieces_cons_of_ne hc t
      rw [startsAfter, if_neg hc, ih, h1, h2, List.length_cons, List.length_cons]

theorem lineCount_eq (hd : d.lineStarts = lineStartsOf d.text) : d.lineCount = d.text.pieces.length := by
  rw [lineCount, hd, lineStartsOf, List.length_cons, length_startsAfter]

theorem length_pieces_le (t : Text) : t.pieces.length ≤ t.bytes + 1 := by
  induction t with
  | nil => exact Nat.le_refl 1
  | cons c t ih =>
    have hpos := c.utf8Size_pos
    by_cases hc : c = '\n'
    · subst hc
      rw [pieces_newline, List.length_cons, bytes_cons]
      omega
    · obtain ⟨first, more, h1, h2⟩ := pieces_cons_of_ne hc t
      rw [h1] at ih
      rw [h2, List.length_cons, bytes_cons]
      simp only [List.length_cons] at ih
      omega

/-! ## Lines and offsets on them -/

/-- A line of the table is a line of the text, up to its line feed or the end. -/
theorem exists_line (hd : d.lineStarts = lineStartsOf d.text) (h : d.lineStarts[n]? = some start) :
    ∃ a line b, d.text = a ++ (line ++ b) ∧ start = a.bytes ∧ d.lineEnd n = a.bytes + line.bytes ∧
      ((∃ rest, b = '\n' :: rest) ∧ n + 1 < d.lineCount ∨ b = [] ∧ n + 1 = d.lineCount) := by
  rw [hd, getElem?_lineStartsOf, Option.ite_none_right_eq_some, Option.some.injEq] at h
  obtain ⟨hn, rfl⟩ := h
  have hline : d.text.pieces[n]? = some d.text.pieces[n] := List.getElem?_eq_getElem hn
  have ht : d.text = wholeLines (d.text.pieces.take n) ++
      joinWith ['\n'] (d.text.pieces[n] :: d.text.pieces.drop (n + 1)) := by
    rw [← joinWith_append_cons, ← List.drop_eq_getElem_cons hn, List.take_append_drop]
    exact (joinWith_splitOn '\n' d.text).symm
  rw [lineCount_eq hd]
  cases hmore : d.text.pieces.drop (n + 1) with
  | nil =>
    have hlen := List.drop_eq_nil_iff.1 hmore
    exact ⟨_, _, [], by rw [hmore] at ht; simpa [joinWith] using ht, rfl, lineEnd_eq hd hline, Or.inr ⟨rfl, by omega⟩⟩
  | cons l more =>
    have hlen := congrArg List.length hmore
    rw [List.length_drop, List.length_cons] at hlen
    refine ⟨_, _, '\n' :: joinWith ['\n'] (l :: more), ?_, rfl, lineEnd_eq hd hline, Or.inl ⟨⟨_, rfl⟩, by omega⟩⟩
    rw [hmore, joinWith_cons (by simp)] at ht
    simpa using ht

/-- An offset that a position has is behind a part of its line. -/
theorem exists_of_offsetOf (hd : d.lineStarts = lineStartsOf d.text) {p : Position} {offset : Nat}
    (h : d.offsetOf p = some offset) :
    ∃ a x y b, d.text = a ++ (x ++ (y ++ b)) ∧ d.lineStarts[p.line]? = some a.bytes ∧
      d.lineEnd p.line = a.bytes + (x.bytes + y.bytes) ∧ offset = a.bytes + x.bytes := by
  simp only [offsetOf, Option.bind_eq_bind, Option.bind_eq_some_iff, Option.pure_def, Option.some.injEq] at h
  obtain ⟨start, hs, rfl⟩ := h
  obtain ⟨a, line, b, ht, rfl, he, -⟩ := exists_line hd hs
  have hslice : d.text.slice a.bytes (d.lineEnd p.line) = line := by rw [ht, he, slice_bytes]
  have hsplit := splitAtColumn_append line p.character
  refine ⟨a, (line.splitAtColumn p.character).1, (line.splitAtColumn p.character).2, b, ?_, hs, ?_, ?_⟩
  · rw [ht, ← List.append_assoc (line.splitAtColumn p.character).1, hsplit]
  · rw [he, ← bytes_append (line.splitAtColumn p.character).1, hsplit]
  · rw [hslice, byteColumn]

theorem offsetOf_eq_none_iff {p : Position} : d.offsetOf p = none ↔ d.lineCount ≤ p.line := by
  rw [offsetOf, Option.bind_eq_bind, Option.bind_eq_none_iff, lineCount, ← List.getElem?_eq_none_iff]
  simp [Option.eq_none_iff_forall_ne_some]

theorem isBoundary_offsetOf (hd : d.lineStarts = lineStartsOf d.text) {p : Position} {offset : Nat}
    (h : d.offsetOf p = some offset) : d.text.isBoundary offset = true := by
  obtain ⟨a, x, y, b, ht, -, -, rfl⟩ := exists_of_offsetOf hd h
  exact isBoundary_iff.2 ⟨a ++ x, y ++ b, by rw [ht, List.append_assoc], (bytes_append a x).symm⟩

theorem isBoundary_clampedOffset (hd : d.lineStarts = lineStartsOf d.text) (p : Position) :
    d.text.isBoundary (d.clampedOffset p) = true := by
  unfold clampedOffset
  cases h : d.offsetOf p with
  | none => exact isBoundary_iff.2 ⟨d.text, [], by simp, rfl⟩
  | some offset => exact isBoundary_offsetOf hd h

/-- The line of an offset starts in front of it. -/
theorem exists_lineStart_lineOf (hd : d.lineStarts = lineStartsOf d.text) (offset : Nat) :
    ∃ start, d.lineStarts[d.lineOf offset]? = some start ∧ start ≤ offset := by
  have hne : d.lineStarts.takeWhile (· ≤ offset) ≠ [] := by simp [hd, lineStartsOf]
  have hlt : d.lineOf offset < (d.lineStarts.takeWhile (· ≤ offset)).length := by
    have := List.length_pos_iff.2 hne
    unfold lineOf
    omega
  have hle := List.all_eq_true.1 (List.all_takeWhile (p := (· ≤ offset)) (l := d.lineStarts)) _ (List.getElem_mem hlt)
  refine ⟨(d.lineStarts.takeWhile (· ≤ offset))[d.lineOf offset], ?_, by simpa using hle⟩
  rw [← List.getElem?_eq_getElem hlt]
  obtain ⟨back, hback⟩ := List.takeWhile_prefix (p := (· ≤ offset)) (l := d.lineStarts)
  conv_lhs => rw [← hback]
  exact List.getElem?_append_left hlt

/-! ## Stretches that are cut -/

theorem boundary_of_mem_lineStarts (hd : d.lineStarts = lineStartsOf d.text) (h : start ∈ d.lineStarts) :
    start ≤ d.text.bytes ∧ d.text.isBoundary start = true := by
  obtain ⟨n, hn⟩ := List.mem_iff_getElem?.1 h
  obtain ⟨a, line, b, ht, rfl, -⟩ := exists_line hd hn
  have hs := IsStretch.of_cut a line b
  rw [← ht] at hs
  exact ⟨Nat.le_trans hs.le hs.inside, hs.startBoundary⟩

theorem isStretch_line (hd : d.lineStarts = lineStartsOf d.text) (h : d.lineStarts[n]? = some start) :
    d.text.IsStretch start (d.lineEnd n) ∧
      (d.lineEnd n ∈ d.text.newlineOffsets ∧ n + 1 < d.lineCount ∨ d.lineEnd n = d.text.bytes ∧ n + 1 = d.lineCount) := by
  obtain ⟨a, line, b, ht, rfl, he, hb⟩ := exists_line hd h
  refine ⟨by rw [ht, he]; exact IsStretch.of_cut a line b, ?_⟩
  rcases hb with ⟨⟨rest, rfl⟩, hlt⟩ | ⟨rfl, heq⟩
  · refine Or.inl ⟨mem_newlineOffsets_iff.2 ?_, hlt⟩
    rw [he, ht, ← List.append_assoc, ← bytes_append, utf8_append, ← length_utf8,
      List.getElem?_append_right (Nat.le_refl _), Nat.sub_self]
    rfl
  · exact Or.inr ⟨by rw [he, ht]; simp, heq⟩

theorem isStretch_offsetOf (hd : d.lineStarts = lineStartsOf d.text) {p : Position} {offset : Nat}
    (h : d.offsetOf p = some offset) :
    ∃ start, d.lineStarts[p.line]? = some start ∧ d.text.IsStretch start offset ∧
      d.text.IsStretch offset (d.lineEnd p.line) := by
  obtain ⟨a, x, y, b, ht, hs, he, rfl⟩ := exists_of_offsetOf hd h
  have h1 := IsStretch.of_cut a x (y ++ b)
  have h2 := IsStretch.of_cut (a ++ x) y b
  rw [bytes_append, List.append_assoc] at h2
  rw [← ht] at h1 h2
  exact ⟨a.bytes, hs, h1, by rwa [he, ← Nat.add_assoc]⟩

theorem isStretch_lineOf (hd : d.lineStarts = lineStartsOf d.text) {offset : Nat}
    (h : d.text.isBoundary offset = true ∨ d.text.bytes ≤ offset) :
    (d.positionOf offset).isSome ∧ ∃ start, d.lineStarts[d.lineOf (min offset d.text.bytes)]? = some start ∧
      d.text.IsStretch start (min offset d.text.bytes) := by
  have hm : d.text.isBoundary (min offset d.text.bytes) = true := by
    rcases h with h | h
    · obtain ⟨a, b, ht, rfl⟩ := isBoundary_iff.1 h
      rwa [Nat.min_eq_left (by rw [ht, bytes_append]; omega)]
    · rw [Nat.min_eq_right h]
      exact isBoundary_iff.2 ⟨d.text, [], by simp, rfl⟩
  obtain ⟨start, hs, hle⟩ := exists_lineStart_lineOf hd (min offset d.text.bytes)
  obtain ⟨-, hb⟩ := boundary_of_mem_lineStarts hd (List.mem_of_getElem? hs)
  exact ⟨by simp [positionOf, hm], start, hs, hle, Nat.min_le_right .., hb, hm⟩

/-! ## Soundness -/

/-- The table is the one of the text, and all offsets that queries and changes take from it are on
boundaries and in order. -/
structure Sound (d : Document) : Prop where
  table : d.lineStarts = 0 :: d.text.newlineOffsets.map (· + 1)
  increasing : d.lineStarts.Pairwise (· < ·)
  starts : ∀ s ∈ d.lineStarts, s ≤ d.text.bytes ∧ d.text.isBoundary s = true
  /-- A line goes up to its line feed, the last one to the end of the text. -/
  lines : ∀ n start, d.lineStarts[n]? = some start → d.text.IsStretch start (d.lineEnd n) ∧
    (d.lineEnd n ∈ d.text.newlineOffsets ∧ n + 1 < d.lineCount ∨ d.lineEnd n = d.text.bytes ∧ n + 1 = d.lineCount)
  noOffset : ∀ p, d.offsetOf p = none ↔ d.lineCount ≤ p.line
  /-- The offset of a position is on its line. -/
  offsets : ∀ p offset, d.offsetOf p = some offset → ∃ start, d.lineStarts[p.line]? = some start ∧
    d.text.IsStretch start offset ∧ d.text.IsStretch offset (d.lineEnd p.line)
  /-- What the text of a range is cut from. -/
  ranges : ∀ r : Range, d.text.IsStretch (d.clampedOffset r.start) (max (d.clampedOffset r.stop) (d.clampedOffset r.start))
  /-- What a change replaces. -/
  changes : ∀ (r : Range) start stop, d.offsetOf r.start = some start → d.offsetOf r.stop = some stop →
    d.text.IsStretch start (max stop start)
  /-- What the column of an offset is counted on. -/
  positions : ∀ offset, d.text.isBoundary offset = true ∨ d.text.bytes ≤ offset → (d.positionOf offset).isSome ∧
    ∃ start, d.lineStarts[d.lineOf (min offset d.text.bytes)]? = some start ∧
      d.text.IsStretch start (min offset d.text.bytes)
  /-- No line number and no column exceeds the size of the text. -/
  counts : d.lineCount ≤ d.text.bytes + 1 ∧ ∀ start stop, (d.text.slice start stop).units ≤ d.text.bytes

theorem sound_of_lineStarts (hd : d.lineStarts = lineStartsOf d.text) : d.Sound where
  table := by rw [hd, lineStartsOf_eq]
  increasing := hd ▸ pairwise_lineStartsOf d.text
  starts _ hs := boundary_of_mem_lineStarts hd hs
  lines _ _ hn := isStretch_line hd hn
  noOffset _ := offsetOf_eq_none_iff
  offsets _ _ h := isStretch_offsetOf hd h
  ranges r := .of_boundaries (isBoundary_clampedOffset hd r.start) (isBoundary_clampedOffset hd r.stop)
  changes _ _ _ h1 h2 := .of_boundaries (isBoundary_offsetOf hd h1) (isBoundary_offsetOf hd h2)
  positions _ ho := isStretch_lineOf hd ho
  counts := ⟨lineCount_eq hd ▸ length_pieces_le d.text,
    fun _ _ => Nat.le_trans (units_le_bytes _) (bytes_slice_le ..)⟩

/-- **Documents are sound** after any sequence of changes, and so are the documents between the
changes of one batch. -/
theorem Reachable.sound_foldl_apply (h : d.Reachable) (changes : List Change) : (changes.foldl apply d).Sound :=
  sound_of_lineStarts (lineStarts_foldl_apply h.lineStarts changes)

/-- A document of two lines, changed around its characters of two and four bytes and then extended by
a line through a range that is the wrong way round. -/
theorem sound_accents :
    let d := (new "cpp" "é𝄞\nx" 1).applyChanges [⟨some ⟨⟨0, 2⟩, ⟨0, 3⟩⟩, "a"⟩] 2
    let changes : List Change := [⟨some ⟨⟨1, 1⟩, ⟨0, 1⟩⟩, "\n"⟩, ⟨some ⟨⟨5, 0⟩, ⟨0, 0⟩⟩, "y"⟩]
    d.Reachable ∧ (changes.foldl apply d).Sound ∧ (changes.foldl apply d).lineStarts = [0, 8, 10] := by
  intro d changes
  have h : d.Reachable := .applyChanges _ _ (.new ..)
  exact ⟨h, h.sound_foldl_apply changes, by decide⟩

end Classwright.Document
