import Mathlib.Data.List.DropRight
import Mathlib.Tactic.Common
import Classwright.Text.Basic
/-!
# Ends of a text

What dropping characters at the ends leaves in place: a character that does not count as dropped
keeps everything on its other side.
-/
namespace Classwright.Text

variable {p : Char → Bool} {c : Char} {a b t : Text}

/-! ## Up to a character -/

theorem takeWhile_append_cons {p : Char → Bool} (h : p c = false) (a b : Text) :
    (a ++ c :: b).takeWhile p = a.takeWhile p := by
  induction a with
  | nil => simp [h]
  | cons d a ih => by_cases hd : p d <;> simp [hd, ih]

theorem dropWhile_append_cons {p : Char → Bool} (h : p c = false) (a b : Text) :
    (a ++ c :: b).dropWhile p = a.dropWhile p ++ c :: b := by
  induction a with
  | nil => simp [h]
  | cons d a ih => by_cases hd : p d <;> simp [hd, ih]

/-! ## Dropping at the end -/

theorem dropEndWhile_append_of_pos (h : ∀ c ∈ b, p c = true) : dropEndWhile p (a ++ b) = dropEndWhile p a := by
  unfold dropEndWhile
  rw [List.reverse_append, List.dropWhile_append_of_pos]
  simpa using h

theorem dropEndWhile_append_cons (h : p c = false) (a b : Text) :
    dropEndWhile p (a ++ c :: b) = a ++ c :: dropEndWhile p b := by
  unfold dropEndWhile
  rw [List.reverse_append, List.reverse_cons, List.append_assoc, List.dropWhile_append]
  split
  · simp_all
  · simp

theorem dropEndWhile_append_dropped (p : Char → Bool) (t : Text) :
    t.dropEndWhile p ++ (t.reverse.takeWhile p).reverse = t := by
  rw [dropEndWhile, ← List.reverse_append, List.takeWhile_append_dropWhile, List.reverse_reverse]

theorem dropEndWhile_isPrefix (p : Char → Bool) (t : Text) : dropEndWhile p t <+: t :=
  ⟨_, dropEndWhile_append_dropped p t⟩

theorem all_dropEndWhile {q : Char → Bool} (h : ∀ c, p c = true → q c = true) (t : Text) :
    (t.dropEndWhile p).all q = t.all q := by
  have hd : ∀ l : List Char, (l.dropWhile p).all q = l.all q := by
    intro l
    induction l with
    | nil => rfl
    | cons c l ih =>
      cases hc : p c with
      | true => simp [hc, ih, h c hc]
      | false => simp [hc]
  unfold dropEndWhile
  rw [List.all_reverse, hd, List.all_reverse]

/-! ## Carriage returns -/

/-- The carriage returns at the end of a line. -/
def returns (line : Text) : Text := (line.reverse.takeWhile (· == '\r')).reverse

theorem dropEndWhile_append_returns (line : Text) : line.dropEndWhile (· == '\r') ++ line.returns = line :=
  dropEndWhile_append_dropped _ line

theorem eq_return_of_mem_returns {line : Text} (h : c ∈ line.returns) : c = '\r' := by
  have := List.all_eq_true.1 List.all_takeWhile c (List.mem_reverse.1 h)
  simpa using this

theorem dropReturn_isPrefix (line : Text) : line.dropReturn <+: line := by
  unfold dropReturn
  cases h : line.stripEnd? ['\r'] with
  | none => exact List.prefix_rfl
  | some rest => exact ⟨['\r'], (stripEnd?_eq_some_iff.1 h).symm⟩

/-! ## Blanks -/

theorem isBlank_dropEndWhile_return (line : Text) : isBlank (line.dropEndWhile (· == '\r')) = line.isBlank := by
  refine all_dropEndWhile (fun c hc => ?_) line
  obtain rfl : c = '\r' := by simpa using hc
  decide

/-! ## Trimming -/

/-- The first character is no white space. -/
def TightStart (t : Text) : Prop := ∃ c rest, t = c :: rest ∧ isBlankChar c = false

/-- The last character is no white space. -/
def TightEnd (t : Text) : Prop := ∃ front c, t = front ++ [c] ∧ isBlankChar c = false

theorem TightStart.append (h : TightStart a) (b : Text) : TightStart (a ++ b) := by
  obtain ⟨c, rest, rfl, hc⟩ := h
  exact ⟨c, rest ++ b, rfl, hc⟩

theorem TightEnd.append (h : TightEnd b) (a : Text) : TightEnd (a ++ b) := by
  obtain ⟨front, c, rfl, hc⟩ := h
  exact ⟨a ++ front, c, by simp, hc⟩

theorem TightEnd.ne_nil (h : TightEnd t) : t ≠ [] := by
  obtain ⟨front, c, rfl, -⟩ := h
  simp

theorem TightStart.trimStart (h : TightStart t) : trimStart t = t := by
  obtain ⟨c, rest, rfl, hc⟩ := h
  simp [Text.trimStart, hc]

/-- White space is all that could be dropped. -/
theorem TightEnd.dropEndWhile_append (h : TightEnd a) (hp : ∀ c, p c = true → isBlankChar c = true) (b : Text) :
    Text.dropEndWhile p (a ++ b) = a ++ Text.dropEndWhile p b := by
  obtain ⟨front, c, rfl, hc⟩ := h
  have hkept : p c = false := by
    by_contra hb
    rw [hp c (by simpa using hb)] at hc
    cases hc
  rw [List.append_assoc, List.singleton_append, dropEndWhile_append_cons hkept, List.append_assoc, List.singleton_append]

theorem TightEnd.dropEndWhile (h : TightEnd t) (hp : ∀ c, p c = true → isBlankChar c = true) :
    dropEndWhile p t = t := by
  have := h.dropEndWhile_append hp []
  rwa [List.append_nil, show Text.dropEndWhile p [] = [] from rfl, List.append_nil] at this

theorem TightEnd.trimEnd (h : TightEnd t) : trimEnd t = t := h.dropEndWhile fun _ hc => hc

/-- Trimming keeps a beginning that ends with no white space. -/
theorem TightEnd.isPrefix_trimEnd (h : TightEnd a) (b : Text) : a <+: Text.trimEnd (a ++ b) := by
  rw [Text.trimEnd, h.dropEndWhile_append fun _ hc => hc]
  exact List.prefix_append ..

/-- Only what stands behind can lose its carriage return. -/
theorem TightEnd.dropReturn_append (h : TightEnd a) (b : Text) : Text.dropReturn (a ++ b) = a ++ Text.dropReturn b := by
  unfold Text.dropReturn
  cases hb : b.stripEnd? ['\r'] with
  | some r =>
    obtain rfl := stripEnd?_eq_some_iff.1 hb
    rw [stripEnd?_eq_some_iff.2 (List.append_assoc a r ['\r']).symm, Option.getD_some, Option.getD_some]
  | none =>
    have hs : stripEnd? (a ++ b) ['\r'] = none := by
      rw [Option.eq_none_iff_forall_not_mem]
      intro r hr
      have heq := stripEnd?_eq_some_iff.1 hr
      cases b using List.reverseRecOn with
      | nil =>
        obtain ⟨front, c, rfl, hc⟩ := h
        rw [List.append_nil] at heq
        obtain ⟨-, hl⟩ := List.append_inj' heq rfl
        rw [List.singleton_inj.1 hl] at hc
        exact absurd hc (by decide)
      | append_singleton b c =>
        rw [← List.append_assoc] at heq
        obtain ⟨-, hl⟩ := List.append_inj' heq rfl
        rw [hl, stripEnd?_eq_some_iff.2 rfl] at hb
        cases hb
    rw [hs, Option.getD_none, Option.getD_none]

theorem TightEnd.dropReturn (h : TightEnd t) : dropReturn t = t := by
  have heq := h.dropReturn_append []
  rwa [List.append_nil, show Text.dropReturn [] = [] from rfl, List.append_nil] at heq

theorem TightEnd.returns_append (h : TightEnd a) (hr : ∀ c ∈ b, c = '\r') : (a ++ b).returns = b := by
  obtain ⟨front, c, rfl, hc⟩ := h
  have hp : ∀ c ∈ b.reverse, (c == '\r') = true := fun c hm => by simpa using hr c (List.mem_reverse.1 hm)
  have hne : (c == '\r') = false := by
    rw [beq_eq_false_iff_ne]
    rintro rfl
    exact absurd hc (by decide)
  rw [returns, List.reverse_append, List.takeWhile_append_of_pos hp, List.reverse_concat,
    List.takeWhile_cons_of_neg (by simp [hne]), List.append_nil, List.reverse_reverse]

theorem trimEnd_concat_of_blank (h : isBlankChar c = true) (t : Text) : trimEnd (t ++ [c]) = trimEnd t :=
  dropEndWhile_append_of_pos (by simpa using h)

theorem trim_of_tight (hs : TightStart t) (he : TightEnd t) : trim t = t := by
  rw [trim, hs.trimStart, he.trimEnd]

theorem trim_cons_of_blank (h : isBlankChar c = true) (t : Text) : trim (c :: t) = trim t := by
  simp [trim, trimStart, h]

theorem trim_concat_of_blank (h : isBlankChar c = true) (t : Text) : trim (t ++ [c]) = trim t := by
  unfold trim trimStart
  rw [List.dropWhile_append]
  split
  · next he => rw [List.isEmpty_iff.1 he, List.dropWhile_cons_of_pos h, List.dropWhile_nil]
  · exact trimEnd_concat_of_blank h _

theorem trimEnd_isPrefix (t : Text) : trimEnd t <+: t := dropEndWhile_isPrefix isBlankChar t

/-- Trimming takes blanks only. -/
theorem exists_blank_append_trimStart (t : Text) : ∃ gap, t = gap ++ t.trimStart ∧ gap.isBlank = true :=
  ⟨t.takeWhile isBlankChar, (List.takeWhile_append_dropWhile ..).symm, List.all_takeWhile⟩

theorem exists_append_blank_trimEnd (t : Text) : ∃ gap, t = t.trimEnd ++ gap ∧ gap.isBlank = true := by
  refine ⟨(t.reverse.takeWhile isBlankChar).reverse, (dropEndWhile_append_dropped isBlankChar t).symm, ?_⟩
  rw [isBlank, List.all_reverse]
  exact List.all_takeWhile

theorem tightStart_of_trim (h : trim t = t) (hne : t ≠ []) : TightStart t := by
  obtain ⟨c, rest, rfl⟩ := List.exists_cons_of_ne_nil hne
  refine ⟨c, rest, rfl, ?_⟩
  by_contra hb
  -- otherwise trimming makes the text shorter
  rw [trim_cons_of_blank (by simpa using hb)] at h
  have h1 := (trimEnd_isPrefix (trimStart rest)).length_le
  have h2 := (List.dropWhile_suffix isBlankChar (l := rest)).length_le
  have h3 := congrArg List.length h
  simp only [trim, trimStart, List.length_cons] at h1 h2 h3
  omega

theorem tightEnd_of_trimEnd (h : trimEnd t = t) (hne : t ≠ []) : TightEnd t := by
  obtain ⟨front, c, rfl⟩ : ∃ front c, t = front ++ [c] := ⟨_, _, (List.dropLast_concat_getLast hne).symm⟩
  refine ⟨front, c, rfl, ?_⟩
  have hd := List.head?_dropWhile_not isBlankChar (c :: front.reverse)
  have hr : (c :: front.reverse).dropWhile isBlankChar = c :: front.reverse := by
    have := congrArg List.reverse h
    simpa [trimEnd, dropEndWhile] using this
  rw [hr] at hd
  exact hd

theorem trimEnd_trimEnd (t : Text) : t.trimEnd.trimEnd = t.trimEnd := by
  unfold trimEnd dropEndWhile
  rw [List.reverse_reverse, List.dropWhile_idempotent]

theorem tightEnd_of_trim (h : trim t = t) (hne : t ≠ []) : TightEnd t := by
  have hend : t.trim.trimEnd = t.trim := trimEnd_trimEnd t.trimStart
  rw [h] at hend
  exact tightEnd_of_trimEnd hend hne

theorem trim_trim (t : Text) : t.trim.trim = t.trim := by
  suffices h : t.trim.trimStart = t.trim by rw [trim, h, trim, trimEnd_trimEnd]
  -- what is left at the end of a trimmed start begins in the same way
  obtain ⟨r, hr⟩ := trimEnd_isPrefix t.trimStart
  cases ht : t.trim with
  | nil => rfl
  | cons c rest =>
    have hs : t.trimStart = c :: (rest ++ r) := by rw [← hr, ← trim, ht]; rfl
    have hc : isBlankChar c = false := by
      have := List.head?_dropWhile_not isBlankChar t
      rw [← trimStart, hs] at this
      simpa using this
    exact TightStart.trimStart ⟨c, rest, rfl, hc⟩

end Classwright.Text
