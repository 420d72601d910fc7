import Mathlib.Tactic.Common
import Classwright.Text.Basic
/-!
# Lines of a text

`pieces` cuts a text at its line feeds. Joining undoes the cut, and whole lines put in front of a
line show up between the pieces and nowhere else (`pieces_insertLines`).
-/
namespace Classwright.Text

/-! ## Cutting at a separator -/

theorem splitOn_ne_nil (sep : Char) (t : Text) : splitOn sep t ≠ [] := by
  induction t with
  | nil => simp [splitOn]
  | cons c t ih =>
    unfold splitOn
    split
    · simp
    · split <;> simp

@[simp] theorem splitOn_cons_self (sep : Char) (t : Text) : splitOn sep (sep :: t) = [] :: splitOn sep t := by
  simp [splitOn]

/-- A character that is no separator belongs to the first piece. -/
theorem splitOn_cons_of_ne {sep c : Char} (h : c ≠ sep) (t : Text) :
    ∃ piece more, splitOn sep t = piece :: more ∧ splitOn sep (c :: t) = (c :: piece) :: more := by
  cases ht : splitOn sep t with
  | nil => exact absurd ht (splitOn_ne_nil sep t)
  | cons piece more => exact ⟨piece, more, rfl, by simp [splitOn, h, ht]⟩

theorem splitOn_of_notMem {sep : Char} {t : Text} (h : sep ∉ t) : splitOn sep t = [t] := by
  induction t with
  | nil => rfl
  | cons c t ih =>
    obtain ⟨hc, ht⟩ : c ≠ sep ∧ sep ∉ t := by simpa [eq_comm] using h
    obtain ⟨piece, more, h1, h2⟩ := splitOn_cons_of_ne hc t
    rw [ih ht] at h1
    cases h1
    exact h2

/-- Up to a separator the text is one piece. -/
theorem splitOn_append_cons {sep : Char} {s : Text} (h : sep ∉ s) (t : Text) :
    splitOn sep (s ++ sep :: t) = s :: splitOn sep t := by
  induction s with
  | nil => simp
  | cons c s ih =>
    obtain ⟨hc, hs⟩ : c ≠ sep ∧ sep ∉ s := by simpa [eq_comm] using h
    obtain ⟨piece, more, h1, h2⟩ := splitOn_cons_of_ne hc (s ++ sep :: t)
    rw [ih hs] at h1
    cases h1
    exact h2

theorem notMem_of_mem_splitOn {sep : Char} {t piece : Text} (h : piece ∈ splitOn sep t) : sep ∉ piece := by
  induction t generalizing piece with
  | nil => simp_all [splitOn]
  | cons c t ih =>
    by_cases hc : c = sep
    · subst hc
      rw [splitOn_cons_self] at h
      rcases List.mem_cons.1 h with rfl | h
      · simp
      · exact ih h
    · obtain ⟨first, more, h1, h2⟩ := splitOn_cons_of_ne hc t
      rw [h2] at h
      rcases List.mem_cons.1 h with rfl | h
      · have hf : first ∈ splitOn sep t := by simp [h1]
        have := ih hf
        simp [this, Ne.symm hc]
      · exact ih (by simp [h1, h])

theorem joinWith_cons {ls : List Text} (h : ls ≠ []) (sep l : Text) :
    joinWith sep (l :: ls) = l ++ sep ++ joinWith sep ls := by
  cases ls with
  | nil => exact absurd rfl h
  | cons m ls => rfl

theorem exists_joinWith_cons_eq (sep : Text) (ls : List Text) : ∃ rest, ∀ l, joinWith sep (l :: ls) = l ++ rest := by
  cases ls with
  | nil => exact ⟨[], fun l => (List.append_nil l).symm⟩
  | cons m ls => exact ⟨sep ++ joinWith sep (m :: ls), fun l => List.append_assoc l sep _⟩

theorem joinWith_append {ls ms : List Text} (hl : ls ≠ []) (hm : ms ≠ []) (sep : Text) :
    joinWith sep (ls ++ ms) = joinWith sep ls ++ sep ++ joinWith sep ms := by
  induction ls with
  | nil => exact absurd rfl hl
  | cons l ls ih =>
    rw [List.cons_append, joinWith_cons (by simp [hm])]
    by_cases hls : ls = []
    · subst hls
      rfl
    · rw [ih hls, joinWith_cons hls]
      simp

theorem joinWith_splitOn (sep : Char) (t : Text) : joinWith [sep] (splitOn sep t) = t := by
  induction t with
  | nil => rfl
  | cons c t ih =>
    by_cases hc : c = sep
    · subst hc
      rw [splitOn_cons_self, joinWith_cons (splitOn_ne_nil c t), ih]
      rfl
    · obtain ⟨first, more, h1, h2⟩ := splitOn_cons_of_ne hc t
      rw [h1] at ih
      rw [h2]
      cases more with
      | nil => simpa [joinWith] using ih
      | cons m more => simpa [joinWith] using ih

/-! ## Pieces -/

@[simp] theorem pieces_nil : pieces [] = [[]] := rfl

@[simp] theorem pieces_newline (t : Text) : pieces ('\n' :: t) = [] :: pieces t := splitOn_cons_self '\n' t

theorem pieces_cons_of_ne {c : Char} (h : c ≠ '\n') (t : Text) :
    ∃ first more, pieces t = first :: more ∧ pieces (c :: t) = (c :: first) :: more := splitOn_cons_of_ne h t

theorem pieces_ne_nil (t : Text) : pieces t ≠ [] := splitOn_ne_nil '\n' t

theorem length_pieces_pos (t : Text) : 0 < t.pieces.length := List.length_pos_iff.2 (pieces_ne_nil t)

theorem exists_pieces_eq_concat (t : Text) : ∃ front last, t.pieces = front ++ [last] :=
  ⟨_, _, (List.dropLast_concat_getLast (pieces_ne_nil t)).symm⟩

theorem notMem_of_mem_pieces {t l : Text} (h : l ∈ t.pieces) : '\n' ∉ l := notMem_of_mem_splitOn h

theorem exists_mem_pieces {t : Text} {c : Char} (hc : c ≠ '\n') (h : c ∈ t) : ∃ l ∈ t.pieces, c ∈ l := by
  induction t with
  | nil => cases h
  | cons d t ih =>
    by_cases hd : d = '\n'
    · subst hd
      obtain ⟨l, hl, hm⟩ := ih ((List.mem_cons.1 h).resolve_left hc)
      exact ⟨l, by simp [hl], hm⟩
    · obtain ⟨first, more, h1, h2⟩ := pieces_cons_of_ne hd t
      rw [h2]
      rcases List.mem_cons.1 h with rfl | h
      · exact ⟨c :: first, by simp, by simp⟩
      · obtain ⟨l, hl, hm⟩ := ih h
        rw [h1] at hl
        rcases List.mem_cons.1 hl with rfl | hl
        · exact ⟨d :: l, by simp, by simp [hm]⟩
        · exact ⟨l, by simp [hl], hm⟩

/-- In front of a text, characters that are no line feeds join its first line. -/
theorem pieces_append_of_notMem {x b y : Text} {more : List Text} (hx : '\n' ∉ x) (hb : b.pieces = y :: more) :
    (x ++ b).pieces = (x ++ y) :: more := by
  induction x with
  | nil => exact hb
  | cons c x ih =>
    obtain ⟨hc, hx⟩ : c ≠ '\n' ∧ '\n' ∉ x := by simpa [eq_comm] using hx
    obtain ⟨first, rest, h1, h2⟩ := pieces_cons_of_ne hc (x ++ b)
    rw [ih hx] at h1
    obtain ⟨rfl, rfl⟩ := List.cons.inj h1
    exact h2

/-! ## Lines -/

theorem lines_append_cons {a : Text} (h : '\n' ∉ a) (b : Text) :
    lines (a ++ '\n' :: b) = a.dropReturn :: lines b := by
  obtain ⟨first, more, hb⟩ := List.exists_cons_of_ne_nil (pieces_ne_nil b)
  rw [lines, lines, pieces, splitOn_append_cons h, ← pieces, hb]
  rfl

theorem lines_of_notMem {a : Text} (h : '\n' ∉ a) (hne : a ≠ []) : lines a = [a] := by
  rw [lines, pieces, splitOn_of_notMem h, linesOfPieces, if_neg]
  simpa using hne

/-! ## The text from a line on -/

/-- The text from the start of a line to its end; nothing from a line that is not there. -/
def fromLine (t : Text) (n : Nat) : Text := joinWith ['\n'] (t.pieces.drop n)

@[simp] theorem fromLine_zero (t : Text) : t.fromLine 0 = t := joinWith_splitOn '\n' t

theorem fromLine_eq_nil {t : Text} {n : Nat} (h : t.pieces.length ≤ n) : t.fromLine n = [] := by
  rw [fromLine, List.drop_eq_nil_of_le h]
  rfl

theorem fromLine_newline (t : Text) (n : Nat) : fromLine ('\n' :: t) (n + 1) = t.fromLine n := by
  rw [fromLine, pieces_newline, List.drop_succ_cons, fromLine]

theorem fromLine_cons_of_ne {c : Char} (h : c ≠ '\n') (t : Text) (n : Nat) :
    fromLine (c :: t) (n + 1) = t.fromLine (n + 1) := by
  obtain ⟨first, more, h1, h2⟩ := pieces_cons_of_ne h t
  rw [fromLine, h2, List.drop_succ_cons, fromLine, h1, List.drop_succ_cons]

/-- A line and what is behind it: nothing, or a line feed and more. -/
theorem exists_fromLine_eq {t line : Text} {n : Nat} (h : t.pieces[n]? = some line) :
    ∃ rest, t.fromLine n = line ++ rest ∧ (rest = [] ∨ ∃ z, rest = '\n' :: z) := by
  obtain ⟨hn, rfl⟩ := List.getElem?_eq_some_iff.1 h
  rw [fromLine, List.drop_eq_getElem_cons hn]
  cases t.pieces.drop (n + 1) with
  | nil => exact ⟨[], (List.append_nil _).symm, Or.inl rfl⟩
  | cons l more => exact ⟨'\n' :: joinWith ['\n'] (l :: more), by simp [joinWith], Or.inr ⟨_, rfl⟩⟩

/-- The text from a line on reaches a later line behind the lines between them. -/
theorem fromLine_eq_append {t : Text} {m n : Nat} (hmn : m < n) (hn : n < t.pieces.length) :
    t.fromLine m = joinWith ['\n'] ((t.pieces.drop m).take (n - m)) ++ '\n' :: t.fromLine n := by
  have hsplit : t.pieces.drop m = (t.pieces.drop m).take (n - m) ++ t.pieces.drop n := by
    rw [show t.pieces.drop n = (t.pieces.drop m).drop (n - m) by rw [List.drop_drop]; congr 1; omega, List.take_append_drop]
  rw [fromLine, hsplit, joinWith_append, ← hsplit, fromLine]
  · simp
  · rw [← List.length_pos_iff, List.length_take, List.length_drop]
    omega
  · rw [← List.length_pos_iff, List.length_drop]
    omega

/-! ## Putting lines into a text -/

def splitAtLine : Text → Nat → Text × Text
  | t, 0 => ([], t)
  | [], _ + 1 => ([], [])
  | c :: rest, line + 1 =>
    let (before, after) := if c = '\n' then splitAtLine rest line else splitAtLine rest (line + 1)
    (c :: before, after)

/-- Lines one after the other, each with its line feed. -/
def wholeLines (block : List Text) : Text := block.flatMap (· ++ ['\n'])

/-- The text with whole lines put in front of one of its lines. -/
def insertLines (t : Text) (line : Nat) (block : List Text) : Text :=
  (t.splitAtLine line).1 ++ wholeLines block ++ (t.splitAtLine line).2

theorem wholeLines_cons (l : Text) (block : List Text) : wholeLines (l :: block) = l ++ '\n' :: wholeLines block := by
  simp [wholeLines]

theorem wholeLines_concat (block : List Text) (l : Text) : wholeLines (block ++ [l]) = wholeLines block ++ l ++ ['\n'] := by
  simp [wholeLines]

theorem joinWith_append_cons (front : List Text) (line : Text) (back : List Text) :
    joinWith ['\n'] (front ++ line :: back) = wholeLines front ++ joinWith ['\n'] (line :: back) := by
  induction front with
  | nil => rfl
  | cons l front ih =>
    rw [List.cons_append, wholeLines_cons, joinWith_cons (by simp), ih]
    simp

theorem eq_wholeLines_append {t last : Text} {front : List Text} (h : t.pieces = front ++ [last]) :
    t = wholeLines front ++ last := by
  rw [← joinWith_splitOn '\n' t, ← pieces, h, joinWith_append_cons]
  rfl

/-- The text up to one of its lines is whole lines; after the line it ends or has a line feed. -/
theorem exists_eq_wholeLines_append {t line : Text} {n : Nat} (h : t.pieces[n]? = some line) :
    ∃ more, t = wholeLines (t.pieces.take n) ++ line ++ more ∧ (more = [] ∨ ∃ rest, more = '\n' :: rest) := by
  obtain ⟨hn, rfl⟩ := List.getElem?_eq_some_iff.1 h
  have ht : t = wholeLines (t.pieces.take n) ++ joinWith ['\n'] (t.pieces[n] :: t.pieces.drop (n + 1)) := by
    rw [← joinWith_append_cons, ← List.drop_eq_getElem_cons hn, List.take_append_drop]
    exact (joinWith_splitOn '\n' t).symm
  cases hd : t.pieces.drop (n + 1) with
  | nil => exact ⟨[], by rw [hd] at ht; simpa [joinWith] using ht, Or.inl rfl⟩
  | cons l back =>
    rw [hd, joinWith_cons (by simp)] at ht
    exact ⟨'\n' :: joinWith ['\n'] (l :: back), by simpa using ht, Or.inr ⟨_, rfl⟩⟩

theorem pieces_wholeLines_append {block : List Text} (hb : ∀ l ∈ block, '\n' ∉ l) (t : Text) :
    pieces (wholeLines block ++ t) = block ++ pieces t := by
  induction block with
  | nil => rfl
  | cons l block ih =>
    have ht := ih fun x hx => hb x (by simp [hx])
    rw [wholeLines_cons, List.append_assoc, List.cons_append, pieces, splitOn_append_cons (hb l (by simp)), ← pieces,
      ht, List.cons_append]

theorem pieces_wholeLines {block : List Text} (hb : ∀ l ∈ block, '\n' ∉ l) : (wholeLines block).pieces = block ++ [[]] := by
  simpa using pieces_wholeLines_append hb []

theorem wholeLines_flatMap {α : Type} (f : α → List Text) (xs : List α) :
    wholeLines (xs.flatMap f) = xs.flatMap fun x => wholeLines (f x) := List.flatMap_assoc

/-- A text that ends with a line feed, if it is not empty, is made up of whole lines. -/
theorem exists_eq_wholeLines {t : Text} (h : t = [] ∨ t.getLast? = some '\n') :
    ∃ front, (∀ l ∈ front, '\n' ∉ l) ∧ t = wholeLines front := by
  rcases h with rfl | h
  · exact ⟨[], by simp, rfl⟩
  · obtain ⟨x, rfl⟩ := List.getLast?_eq_some_iff.1 h
    refine ⟨pieces x, fun l hl => notMem_of_mem_pieces hl, ?_⟩
    obtain ⟨front, last, hp⟩ := exists_pieces_eq_concat x
    rw [hp, wholeLines_concat, ← eq_wholeLines_append hp]

theorem lines_wholeLines_append {front : List Text} (h : ∀ l ∈ front, '\n' ∉ l) (b : Text) :
    lines (wholeLines front ++ b) = front.map dropReturn ++ lines b := by
  induction front with
  | nil => rfl
  | cons l front ih =>
    have hb := ih fun x hx => h x (by simp [hx])
    rw [wholeLines_cons, List.append_assoc, List.cons_append, lines_append_cons (h l (by simp)), hb]
    rfl

/-- Behind whole lines the lines of a text are what they are by themselves. -/
theorem lines_append {a : Text} (h : a = [] ∨ a.getLast? = some '\n') (b : Text) :
    lines (a ++ b) = lines a ++ lines b := by
  obtain ⟨front, hfront, rfl⟩ := exists_eq_wholeLines h
  have ha : lines (wholeLines front) = front.map dropReturn := by
    simpa [lines, linesOfPieces] using lines_wholeLines_append hfront []
  rw [lines_wholeLines_append hfront, ha]

/-- Lines that are joined are the lines of the text. -/
theorem pieces_joinWith {ls : List Text} (hne : ls ≠ []) (h : ∀ l ∈ ls, '\n' ∉ l) : pieces (joinWith ['\n'] ls) = ls := by
  obtain ⟨front, last, rfl⟩ : ∃ front last, ls = front ++ [last] := ⟨_, _, (List.dropLast_concat_getLast hne).symm⟩
  have hl : '\n' ∉ last := h last (by simp)
  rw [joinWith_append_cons, pieces_wholeLines_append fun l hm => h l (by simp [hm]), joinWith, pieces, splitOn_of_notMem hl]

theorem pieces_injective : Function.Injective pieces := by
  intro s t h
  rw [← joinWith_splitOn '\n' s, ← joinWith_splitOn '\n' t, ← pieces, h, pieces]

/-- Where a text is cut, the last line before and the first line after make up one line. -/
theorem pieces_append {a b x y : Text} {front more : List Text} (ha : a.pieces = front ++ [x]) (hb : b.pieces = y :: more) :
    (a ++ b).pieces = front ++ (x ++ y) :: more := by
  have hn : ∀ l ∈ front ++ [x], '\n' ∉ l := fun l hl => notMem_of_mem_pieces (ha ▸ hl)
  rw [eq_wholeLines_append ha, List.append_assoc, pieces_wholeLines_append fun l hl => hn l (by simp [hl]),
    pieces_append_of_notMem (hn x (by simp)) hb]

/-- A line feed ends the last line of what is in front of it. -/
theorem pieces_append_newline (t z : Text) : (t ++ '\n' :: z).pieces = t.pieces ++ z.pieces := by
  obtain ⟨front, last, ht⟩ := exists_pieces_eq_concat t
  rw [pieces_append ht (pieces_newline z), ht]
  simp

/-- **Inserted lines** stand between the lines of the text, which are otherwise the same. -/
theorem pieces_insertLines {t : Text} {line : Nat} {block : List Text} (hl : line < t.pieces.length)
    (hb : ∀ l ∈ block, '\n' ∉ l) :
    (t.insertLines line block).pieces = t.pieces.take line ++ block ++ t.pieces.drop line := by
  induction t generalizing line with
  | nil =>
    obtain rfl : line = 0 := by simpa using hl
    simpa [insertLines, splitAtLine] using pieces_wholeLines_append hb []
  | cons c t ih =>
    cases line with
    | zero => simpa [insertLines, splitAtLine] using pieces_wholeLines_append hb (c :: t)
    | succ line =>
      by_cases hc : c = '\n'
      · subst hc
        have e : insertLines ('\n' :: t) (line + 1) block = '\n' :: insertLines t line block := by
          simp [insertLines, splitAtLine]
        simp only [pieces_newline, List.length_cons] at hl ⊢
        rw [e, pieces_newline, ih (by omega)]
        rfl
      · have e : insertLines (c :: t) (line + 1) block = c :: insertLines t (line + 1) block := by
          simp [insertLines, splitAtLine, hc]
        obtain ⟨first, more, h1, h2⟩ := pieces_cons_of_ne hc t
        obtain ⟨first', more', h1', h2'⟩ := pieces_cons_of_ne hc (insertLines t (line + 1) block)
        have hl' : line + 1 < (pieces t).length := by rw [h2] at hl; rwa [h1]
        have hi := ih hl'
        rw [h1', h1] at hi
        obtain ⟨rfl, rfl⟩ := List.cons.inj hi
        rw [e, h2', h2]
        rfl

end Classwright.Text
