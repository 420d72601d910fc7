import Classwright.Position
import Classwright.Proofs.Text.Lines
/-!
# Places in a text

A place in a text is a cut into what stands before and what stands after. Its position is found by
reading what stands before (`Position.after`); the positions that a text has are those of its cuts
(`exists_cut_of_hasPosition`). A search through the lines finds the position of every byte offset
(`positionIn?_pieces`).
-/
namespace Classwright

def Position.next (p : Position) (c : Char) : Position :=
  if c = '\n' then ⟨p.line + 1, 0⟩ else ⟨p.line, p.character + Text.unitsOf c⟩

def Position.after (p : Position) (t : Text) : Position := t.foldl Position.next p

def Position.origin : Position := ⟨0, 0⟩

/-- The position is on a line of the text, between two of its characters or at an end of it. -/
def Text.HasPosition (t : Text) (p : Position) : Prop :=
  ∃ before after, t.pieces[p.line]? = some (before ++ after) ∧ p.character = before.units

namespace Position

@[simp] theorem after_nil (p : Position) : p.after [] = p := rfl

@[simp] theorem after_cons (p : Position) (c : Char) (t : Text) : p.after (c :: t) = (p.next c).after t := rfl

theorem after_append (p : Position) (s t : Text) : p.after (s ++ t) = (p.after s).after t := List.foldl_append

@[simp] theorem next_newline (p : Position) : p.next '\n' = ⟨p.line + 1, 0⟩ := rfl

theorem next_of_ne {c : Char} (h : c ≠ '\n') (p : Position) : p.next c = ⟨p.line, p.character + Text.unitsOf c⟩ := by
  simp [next, h]

theorem line_after (p : Position) (t : Text) : (p.after t).line = p.line + t.count '\n' := by
  induction t generalizing p with
  | nil => rfl
  | cons c t ih =>
    rw [after_cons, ih, List.count_cons]
    by_cases hc : c = '\n'
    · subst hc
      simp only [next_newline, beq_self_eq_true, if_true]
      omega
    · rw [next_of_ne hc, if_neg (by simpa using hc)]
      rfl

/-- A text without line feeds stays on its line. -/
theorem after_of_notMem {t : Text} (h : '\n' ∉ t) (p : Position) : p.after t = ⟨p.line, p.character + t.units⟩ := by
  induction t generalizing p with
  | nil => rfl
  | cons c t ih =>
    obtain ⟨hc, ht⟩ : c ≠ '\n' ∧ '\n' ∉ t := by simpa [eq_comm] using h
    rw [after_cons, next_of_ne hc, ih ht, Text.units_cons, Nat.add_assoc]

theorem after_wholeLines {block : List Text} (hb : ∀ l ∈ block, '\n' ∉ l) (p : Position) :
    p.after (Text.wholeLines block) = if block = [] then p else ⟨p.line + block.length, 0⟩ := by
  induction block generalizing p with
  | nil => rfl
  | cons l block ih =>
    rw [Text.wholeLines_cons, after_append, after_of_notMem (hb l (by simp)), after_cons, next_newline,
      ih fun x hx => hb x (by simp [hx])]
    cases block with
    | nil => simp
    | cons m block => simp; omega

/-- **The position behind a text** is on its last line. The column is the width of that line, and
the start counts when it is the only one. -/
theorem after_eq (p : Position) {t last : Text} {front : List Text} (h : t.pieces = front ++ [last]) :
    p.after t = ⟨p.line + front.length, (if front = [] then p.character else 0) + last.units⟩ := by
  have hn : ∀ l ∈ front ++ [last], '\n' ∉ l := fun l hl => Text.notMem_of_mem_pieces (h ▸ hl)
  rw [Text.eq_wholeLines_append h, after_append, after_wholeLines fun l hl => hn l (by simp [hl]),
    after_of_notMem (hn last (by simp))]
  cases front <;> simp

theorem origin_after_wholeLines {block : List Text} (hb : ∀ l ∈ block, '\n' ∉ l) :
    origin.after (Text.wholeLines block) = ⟨block.length, 0⟩ := by
  rw [after_wholeLines hb]
  cases block <;> simp [origin]

end Position

namespace Text

/-- **Positions are cuts.** Each position that a text has is the one behind a beginning of it. -/
theorem exists_cut_of_hasPosition {t : Text} {p : Position} (h : t.HasPosition p) :
    ∃ a b, t = a ++ b ∧ Position.origin.after a = p := by
  obtain ⟨x, y, hp, hx⟩ := h
  obtain ⟨more, ht, -⟩ := exists_eq_wholeLines_append hp
  have hn : '\n' ∉ x ++ y := notMem_of_mem_pieces (List.mem_of_getElem? hp)
  have hl : ∀ l ∈ t.pieces.take p.line, '\n' ∉ l := fun l hl => notMem_of_mem_pieces (List.mem_of_mem_take hl)
  obtain ⟨hlt, -⟩ := List.getElem?_eq_some_iff.1 hp
  refine ⟨wholeLines (t.pieces.take p.line) ++ x, y ++ more, by simpa using ht, ?_⟩
  rw [Position.after_append, Position.origin_after_wholeLines hl,
    Position.after_of_notMem fun hm => hn (List.mem_append_left y hm), ← hx, List.length_take, Nat.zero_add,
    Nat.min_eq_left (by omega)]

/-! ## Offsets of cuts -/

theorem utf8Size_eq_succ (c : Char) : ∃ k, c.utf8Size = k + 1 := ⟨c.utf8Size - 1, by have := c.utf8Size_pos; omega⟩

theorem unitsOf_eq_succ (c : Char) : ∃ k, unitsOf c = k + 1 := by
  unfold unitsOf
  split
  · exact ⟨0, rfl⟩
  · exact ⟨1, rfl⟩

@[simp] theorem splitBytes_zero (t : Text) : t.splitBytes 0 = ([], t) := by cases t <;> rfl

/-- From a cut on, a text is split as what stands behind the cut. -/
theorem splitBytes_bytes_add (a b : Text) (n : Nat) :
    (a ++ b).splitBytes (a.bytes + n) = (a ++ (b.splitBytes n).1, (b.splitBytes n).2) := by
  induction a with
  | nil => simp
  | cons c a ih =>
    obtain ⟨k, hk⟩ := utf8Size_eq_succ c
    have hs : k + bytes a + n + 1 - c.utf8Size = bytes a + n := by omega
    rw [bytes_cons, hk, List.cons_append, show k + 1 + bytes a + n = k + bytes a + n + 1 by omega, splitBytes, hs, ih]
    rfl

theorem splitBytes_bytes (a b : Text) : (a ++ b).splitBytes a.bytes = (a, b) := by
  have h := splitBytes_bytes_add a b 0
  simpa using h

theorem splitBytes_append_of_le {a : Text} {n : Nat} (h : n ≤ a.bytes) (b : Text) :
    (a ++ b).splitBytes n = ((a.splitBytes n).1, (a.splitBytes n).2 ++ b) := by
  induction a generalizing n with
  | nil =>
    obtain rfl : n = 0 := Nat.le_zero.1 h
    simp
  | cons c a ih =>
    cases n with
    | zero => rfl
    | succ n =>
      rw [bytes_cons] at h
      rw [List.cons_append, splitBytes, splitBytes, ih (by omega)]

/-- Behind the end of a text nothing more is taken. -/
theorem splitBytes_min (t : Text) (n : Nat) : t.splitBytes (min n t.bytes) = t.splitBytes n := by
  rcases Nat.le_total n t.bytes with h | h
  · rw [Nat.min_eq_left h]
  · have hall : ∀ (t : Text) (n : Nat), t.bytes ≤ n → t.splitBytes n = (t, []) := by
      intro t
      induction t with
      | nil => intro n _; rfl
      | cons c t ih =>
        intro n hn
        obtain ⟨k, hk⟩ := utf8Size_eq_succ c
        rw [bytes_cons] at hn
        obtain ⟨m, rfl⟩ : ∃ m, n = m + 1 := ⟨n - 1, by omega⟩
        rw [splitBytes, ih _ (by omega)]
    rw [Nat.min_eq_right h, hall t n h, hall t t.bytes (Nat.le_refl _)]

theorem slice_bytes (a m b : Text) : (a ++ (m ++ b)).slice a.bytes (a.bytes + m.bytes) = m := by
  rw [slice, splitBytes_bytes, Nat.add_sub_cancel_left, splitBytes_bytes]

/-- A slice from a cut on is a slice of what stands behind the cut. -/
theorem slice_bytes_add (a b : Text) (start stop : Nat) :
    (a ++ b).slice (a.bytes + start) (a.bytes + stop) = b.slice start stop := by
  rw [slice, slice, splitBytes_bytes_add, Nat.add_sub_add_left]

theorem slice_self (t : Text) (n : Nat) : t.slice n n = [] := by simp [slice]

@[simp] theorem splitAtColumn_zero (t : Text) : t.splitAtColumn 0 = ([], t) := by cases t <;> rfl

theorem splitAtColumn_units (x y : Text) : (x ++ y).splitAtColumn x.units = (x, y) := by
  induction x with
  | nil => simp
  | cons c x ih =>
    obtain ⟨k, hk⟩ := unitsOf_eq_succ c
    have hs : k + units x + 1 - unitsOf c = units x := by omega
    rw [units_cons, hk, List.cons_append, show k + 1 + units x = k + units x + 1 by omega, splitAtColumn, hs, ih]

theorem byteColumn_units (x y : Text) : (x ++ y).byteColumn x.units = x.bytes := by
  rw [byteColumn, splitAtColumn_units]

/-! ## Positions of offsets -/

/-- An offset that is not behind all lines is on one of them, and its position is found there. -/
theorem exists_line_of_positionIn? {ls : List Text} (hne : ls ≠ []) {offset : Nat}
    (h : offset ≤ (joinWith ['\n'] ls).bytes) (n : Nat) : ∃ front line back k,
      ls = front ++ line :: back ∧ k ≤ line.bytes ∧ offset = (wholeLines front).bytes + k ∧
      positionIn? n ls offset = some ⟨n + front.length, (line.splitBytes k).1.units⟩ := by
  induction ls generalizing offset n with
  | nil => exact absurd rfl hne
  | cons l ls ih =>
    by_cases hl : offset ≤ l.bytes
    · exact ⟨[], l, ls, offset, rfl, hl, (Nat.zero_add _).symm, by rw [positionIn?, if_pos hl]; rfl⟩
    · have hls : ls ≠ [] := by
        rintro rfl
        exact hl h
      have h1 : Char.utf8Size '\n' = 1 := by decide
      rw [joinWith_cons hls] at h
      simp only [bytes_append, bytes_cons, bytes_nil, h1] at h
      have hrest : offset - (l.bytes + 1) ≤ (joinWith ['\n'] ls).bytes := by omega
      obtain ⟨front, line, back, k, rfl, hk, hoffset, hfound⟩ := ih hls hrest (n + 1)
      refine ⟨l :: front, line, back, k, rfl, hk, ?_, ?_⟩
      · rw [wholeLines_cons, bytes_append, bytes_cons, h1]
        omega
      · rw [positionIn?, if_neg hl, hfound, List.length_cons]
        congr 2
        omega

/-- **The position of an offset** in the text is the one behind the characters that are needed to come to it. -/
theorem positionIn?_pieces {t : Text} {offset : Nat} (h : offset ≤ t.bytes) :
    positionIn? 0 t.pieces offset = some (Position.origin.after (t.splitBytes offset).1) := by
  have hjoin : joinWith ['\n'] t.pieces = t := joinWith_splitOn '\n' t
  have hle : offset ≤ (joinWith ['\n'] t.pieces).bytes := by rwa [hjoin]
  obtain ⟨front, line, back, k, hp, hk, rfl, hfound⟩ := exists_line_of_positionIn? (pieces_ne_nil t) hle 0
  obtain ⟨rest, hrest⟩ := exists_joinWith_cons_eq ['\n'] back
  have ht : t = wholeLines front ++ (line ++ rest) := by rw [← hrest, ← joinWith_append_cons, ← hp, hjoin]
  have hfront : ∀ l ∈ front, '\n' ∉ l := fun l hl => notMem_of_mem_pieces (hp ▸ List.mem_append_left _ hl)
  have hline : '\n' ∉ (line.splitBytes k).1 := fun hm =>
    notMem_of_mem_pieces (t := t) (l := line) (by simp [hp]) (splitBytes_append line k ▸ List.mem_append_left _ hm)
  rw [hfound, ht, splitBytes_bytes_add, splitBytes_append_of_le hk, Position.after_append,
    Position.origin_after_wholeLines hfront, Position.after_of_notMem hline]
  simp

theorem positionAt_eq (t : Text) (offset : Nat) :
    t.positionAt offset = Position.origin.after (t.splitBytes offset).1 := by
  rw [positionAt, positionIn?_pieces (Nat.min_le_right ..), Option.getD_some, splitBytes_min]

/-- The end of a text is behind all of it. -/
theorem endPosition_eq (t : Text) : t.endPosition = Position.origin.after t := by
  have h := splitBytes_bytes t []
  rw [List.append_nil] at h
  rw [endPosition, positionAt_eq, h]

end Text
end Classwright
