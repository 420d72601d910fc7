import Mathlib.Tactic.Common
import Mathlib.Data.List.Infix
import Classwright.Text.Basic
/-!
# Searching a text

A marker is in a text when it stands there as one stretch of characters (`has_iff`). A marker that
does not have some character never reaches over it, so a search goes through a text one stretch
after the other (`isInfix_append_cons_iff`, `cut?_append_cons`). Identifiers have none of the
characters that markers around them are made of (`IsIdentifier.notMem`).
-/
namespace Classwright.Text

variable {t m a b : Text} {c : Char}

/-! ## Occurrences -/

theorem stripStart?_eq_none_iff : t.stripStart? m = none ↔ ¬ m <+: t := by
  rw [Option.eq_none_iff_forall_not_mem]
  constructor
  · rintro h ⟨r, hr⟩
    exact h r (stripStart?_eq_some_iff.2 hr.symm)
  · intro h r hr
    exact h ⟨r, (stripStart?_eq_some_iff.1 hr).symm⟩

theorem stripEnd?_eq_none_iff : t.stripEnd? m = none ↔ ¬ m <:+ t := by
  unfold stripEnd?
  rw [Option.map_eq_none_iff, stripStart?_eq_none_iff, List.reverse_prefix]

theorem startsWith_iff : t.startsWith m = true ↔ m <+: t := by
  rw [startsWith, ← not_iff_not, ← stripStart?_eq_none_iff, Option.not_isSome_iff_eq_none]

theorem cut?_eq_none_iff : t.cut? m = none ↔ ¬ m <:+: t := by
  induction t with
  | nil => rw [cut?, Option.map_eq_none_iff, stripStart?_eq_none_iff, List.prefix_nil, List.infix_nil]
  | cons c t ih =>
    rw [List.infix_cons_iff, not_or, ← stripStart?_eq_none_iff, ← ih, cut?]
    cases stripStart? (c :: t) m <;> simp

theorem has_iff : t.has m = true ↔ m <:+: t := by
  rw [has, ← not_iff_not, ← cut?_eq_none_iff, Option.not_isSome_iff_eq_none]

theorem cutLast?_eq_none_iff : t.cutLast? m = none ↔ ¬ m <:+: t := by
  induction t with
  | nil => rw [cutLast?, Option.map_eq_none_iff, stripStart?_eq_none_iff, List.prefix_nil, List.infix_nil]
  | cons c t ih =>
    rw [List.infix_cons_iff, not_or, and_comm, ← stripStart?_eq_none_iff, ← ih, cutLast?]
    cases cutLast? t m <;> simp

/-! ## Characters that a marker does not have -/

/-- A marker at the start of a text ends in front of a character that it does not have. -/
theorem isPrefix_append_cons_iff (h : c ∉ m) : m <+: a ++ c :: b ↔ m <+: a := by
  refine ⟨fun hp => ?_, fun hp => hp.trans (List.prefix_append ..)⟩
  rcases List.prefix_or_prefix_of_prefix hp (List.prefix_append a (c :: b)) with hm | hm
  · exact hm
  · obtain ⟨r, rfl⟩ := hm
    rw [List.prefix_append_right_inj] at hp
    cases r with
    | nil => simp
    | cons d r =>
      obtain ⟨rfl, -⟩ := List.cons_prefix_cons.1 hp
      simp at h

/-- A beginning that ends with a character stays when text without that character goes. -/
theorem isPrefix_of_append_notMem (hc : c ∉ b) (hp : t ++ [c] <+: a ++ b) : t ++ [c] <+: a := by
  rcases List.prefix_or_prefix_of_prefix hp (List.prefix_append a b) with h | ⟨u, hu⟩
  · exact h
  · cases u using List.reverseRecOn with
    | nil => exact ⟨[], by rw [List.append_nil, ← hu, List.append_nil]⟩
    | append_singleton u d =>
      rw [← List.append_assoc] at hu
      obtain ⟨rfl, hd⟩ := List.append_inj' hu rfl
      obtain rfl := List.singleton_inj.1 hd
      rw [List.append_assoc, List.prefix_append_right_inj] at hp
      exact absurd (hp.subset (by simp)) hc

/-- A marker at the end of a text begins behind such a character. -/
theorem isSuffix_append_cons_iff (h : c ∉ m) : m <:+ a ++ c :: b ↔ m <:+ b := by
  rw [← List.reverse_prefix, List.reverse_append, List.reverse_cons, List.append_assoc, List.singleton_append,
    isPrefix_append_cons_iff (by simpa using h), List.reverse_prefix]

theorem isInfix_append_cons_iff (h : c ∉ m) : m <:+: a ++ c :: b ↔ m <:+: a ∨ m <:+: b := by
  induction a with
  | nil =>
    have hp : m <+: c :: b ↔ m <+: [] := isPrefix_append_cons_iff (a := []) h
    rw [List.nil_append, List.infix_cons_iff, hp, List.prefix_nil, List.infix_nil]
  | cons d a ih =>
    have hp : m <+: (d :: a) ++ c :: b ↔ m <+: d :: a := isPrefix_append_cons_iff h
    rw [List.cons_append, List.infix_cons_iff, ih, List.infix_cons_iff, ← List.cons_append, hp, or_assoc]

/-! ## The first and the last occurrence -/

theorem cut?_of_prefix (m b : Text) : (m ++ b).cut? m = some ([], b) := by
  cases h : m ++ b with
  | nil =>
    obtain ⟨rfl, rfl⟩ := List.append_eq_nil_iff.1 h
    rfl
  | cons c t => rw [cut?, ← h, stripStart?_append]

/-- No occurrence begins in front of the first one. -/
theorem length_le_of_cut? {x z : Text} (h : t.cut? m = some (a, b)) (ht : t = x ++ z) (hz : m <+: z) : a.length ≤ x.length := by
  induction t generalizing a x with
  | nil =>
    rw [cut?, Option.map_eq_some_iff] at h
    obtain ⟨r, -, he⟩ := h
    rw [← (Prod.mk.inj he).1]
    exact Nat.zero_le _
  | cons c t ih =>
    rw [cut?] at h
    cases hs : stripStart? (c :: t) m with
    | some after =>
      simp only [hs, Option.some.injEq, Prod.mk.injEq] at h
      rw [← h.1]
      exact Nat.zero_le _
    | none =>
      simp only [hs, Option.map_eq_some_iff, Prod.mk.injEq] at h
      obtain ⟨⟨u, v⟩, hu, rfl, rfl⟩ := h
      cases x with
      | nil => exact absurd (ht ▸ hz) (stripStart?_eq_none_iff.1 hs)
      | cons d x => exact Nat.succ_le_succ (ih hu (List.cons.inj ht).2)

/-- A search goes on behind a stretch without the marker. -/
theorem cut?_append_cons (hc : c ∉ m) (ha : ¬ m <:+: a) (b : Text) :
    (a ++ c :: b).cut? m = (b.cut? m).map fun (before, after) => (a ++ c :: before, after) := by
  induction a with
  | nil =>
    have hp : ¬ m <+: c :: b := by
      have := isPrefix_append_cons_iff (a := []) (b := b) hc
      rw [List.nil_append] at this
      rw [this, List.prefix_nil]
      simpa using ha
    rw [List.nil_append, cut?, stripStart?_eq_none_iff.2 hp]
    rfl
  | cons d a ih =>
    rw [List.infix_cons_iff, not_or] at ha
    have hp : ¬ m <+: d :: (a ++ c :: b) := by
      rw [← List.cons_append, isPrefix_append_cons_iff hc]
      exact ha.1
    rw [List.cons_append, cut?, stripStart?_eq_none_iff.2 hp]
    simp only [ih ha.2, Option.map_map]
    rfl

/-- The first occurrence of a single character. -/
theorem cut?_char (h : c ∉ a) (b : Text) : (a ++ c :: b).cut? [c] = some (a, b) := by
  induction a with
  | nil => exact cut?_of_prefix [c] b
  | cons d a ih =>
    obtain ⟨hd, ha⟩ : c ≠ d ∧ c ∉ a := by simpa using h
    rw [List.cons_append, cut?, stripStart?, if_neg hd]
    simp only [ih ha]
    rfl

theorem cut?_char_eq_some_iff : t.cut? [c] = some (a, b) ↔ t = a ++ c :: b ∧ c ∉ a := by
  refine ⟨fun h => ?_, fun h => h.1 ▸ cut?_char h.2 b⟩
  have ht : t = a ++ c :: b := by simpa using eq_of_cut? h
  refine ⟨ht, fun hc => ?_⟩
  -- a character in front of the cut would have been found first
  obtain ⟨x, y, rfl, hx⟩ := List.eq_append_cons_of_mem hc
  have hfirst := cut?_char hx (y ++ c :: b)
  rw [← List.cons_append, ← List.append_assoc, ← ht, h] at hfirst
  have hlength := congrArg List.length (Prod.mk.inj (Option.some.inj hfirst)).1
  simp at hlength

theorem cutLast?_append (hm : m ≠ []) (h : ¬ m <:+: m.tail ++ b) : (a ++ (m ++ b)).cutLast? m = some (a, b) := by
  induction a with
  | nil =>
    obtain ⟨c, m, rfl⟩ := List.exists_cons_of_ne_nil hm
    rw [List.tail_cons] at h
    rw [List.nil_append, List.cons_append, cutLast?, cutLast?_eq_none_iff.2 h, ← List.cons_append,
      stripStart?_append]
    rfl
  | cons c a ih => rw [List.cons_append, cutLast?, ih]

/-- The last occurrence is the one behind whose first character there is no other. -/
theorem cutLast?_eq_some_iff (hm : m ≠ []) :
    t.cutLast? m = some (a, b) ↔ t = a ++ (m ++ b) ∧ ¬ m <:+: m.tail ++ b := by
  refine ⟨fun h => ?_, fun h => h.1 ▸ cutLast?_append hm h.2⟩
  induction t generalizing a with
  | nil =>
    rw [cutLast?, Option.map_eq_some_iff] at h
    obtain ⟨r, hr, -⟩ := h
    exact absurd (List.append_eq_nil_iff.1 (stripStart?_eq_some_iff.1 hr).symm).1 hm
  | cons d t ih =>
    rw [cutLast?] at h
    cases hd : cutLast? t m with
    | some cut =>
      obtain ⟨x, y⟩ := cut
      simp only [hd, Option.some.injEq, Prod.mk.injEq] at h
      obtain ⟨rfl, rfl⟩ := h
      obtain ⟨rfl, hlast⟩ := ih hd
      exact ⟨rfl, hlast⟩
    | none =>
      simp only [hd, Option.map_eq_some_iff, stripStart?_eq_some_iff, Prod.mk.injEq] at h
      obtain ⟨r, hr, rfl, rfl⟩ := h
      obtain ⟨e, m, rfl⟩ := List.exists_cons_of_ne_nil hm
      obtain ⟨rfl, rfl⟩ := List.cons.inj hr
      exact ⟨rfl, cutLast?_eq_none_iff.1 hd⟩

theorem cutLast?_char_eq_some_iff : t.cutLast? [c] = some (a, b) ↔ t = a ++ c :: b ∧ c ∉ b := by
  rw [cutLast?_eq_some_iff (List.cons_ne_nil c []), List.singleton_append, List.tail_cons, List.nil_append,
    List.singleton_infix_iff]

/-! ## Identifiers -/

/-- A character of an identifier: a letter, a digit or an underscore, or one from outside of ASCII
that is no white space. -/
def isNameChar (c : Char) : Bool := (c.isAlphanum || c == '_' || 0x80 ≤ c.toNat) && !isBlankChar c

def IsIdentifier (t : Text) : Prop := t ≠ [] ∧ t.all isNameChar = true

theorem IsIdentifier.isNameChar (h : IsIdentifier t) (hc : c ∈ t) : isNameChar c = true :=
  List.all_eq_true.1 h.2 c hc

theorem IsIdentifier.notMem (h : IsIdentifier t) (hc : Text.isNameChar c = false) : c ∉ t := by
  intro hm
  rw [h.isNameChar hm] at hc
  cases hc

theorem IsIdentifier.not_blank (h : IsIdentifier t) (hc : c ∈ t) : isBlankChar c = false := by
  have := h.isNameChar hc
  simp only [Text.isNameChar, Bool.and_eq_true, Bool.not_eq_true'] at this
  exact this.2

end Classwright.Text
