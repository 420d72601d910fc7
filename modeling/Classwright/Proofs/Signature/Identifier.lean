import Mathlib.Tactic.Common
import Classwright.Proofs.Text.Search
import Classwright.Signature.Declaration
/-!
# Whole identifiers

The search for a name in front of a parenthesis goes from one occurrence to the next that begins behind
it (`findFrom_of_cut`). Occurrences of such a needle never overlap, so none is passed over: what is
found is the first occurrence that does not continue an identifier (`findIdentifier_eq_some_iff`).
-/
namespace Classwright.Declaration

open Text

variable {needle name line a b x y z : Text} {previous : Option Char}

/-! ## From one occurrence to the next -/

/-- The characters of an occurrence are passed over. -/
theorem findFrom_skip (needle u y : Text) (previous : Option Char) :
    findFrom needle u.length previous (u ++ y) =
      (findFrom needle 0 (u.getLast?.or previous) y).map fun (before, found) => (u ++ before, found) := by
  induction u generalizing previous with
  | nil => simp
  | cons c u ih =>
    have hlast : (c :: u).getLast?.or previous = u.getLast?.or (some c) := by
      cases u <;> simp [List.getLast?_cons]
    rw [List.length_cons, List.cons_append, findFrom, ih, hlast, Option.map_map]
    rfl

/-- What is found is the rest of the text. It begins with the needle and does not go on from what is in front of it. -/
theorem findFrom_cut {skip : Nat} (h : findFrom needle skip previous b = some (x, z)) :
    b = x ++ z ∧ needle <+: z ∧ isBoundary (x.getLast?.or previous) = true := by
  induction b generalizing skip previous x with
  | nil => cases skip <;> cases h
  | cons c b ih =>
    -- unless the needle is found here, the cut is one of the rest
    have hrest : ∀ {k : Nat}, (findFrom needle k (some c) b).map (fun (before, found) => (c :: before, found)) = some (x, z) →
        c :: b = x ++ z ∧ needle <+: z ∧ isBoundary (x.getLast?.or previous) = true := by
      intro k hk
      obtain ⟨⟨u, v⟩, hu, he⟩ := Option.map_eq_some_iff.1 hk
      obtain ⟨rfl, rfl⟩ := Prod.mk.inj he
      obtain ⟨rfl, hneedle, hboundary⟩ := ih hu
      have hlast : (c :: u).getLast?.or previous = u.getLast?.or (some c) := by
        cases u <;> simp [List.getLast?_cons]
      exact ⟨rfl, hneedle, hlast ▸ hboundary⟩
    cases skip with
    | succ skip => exact hrest h
    | zero =>
      rw [findFrom] at h
      split at h
      · next hs =>
        split at h
        · next hb =>
          obtain ⟨rfl, rfl⟩ := Prod.mk.inj (Option.some.inj h)
          exact ⟨rfl, startsWith_iff.1 hs, hb⟩
        · exact hrest h
      · exact hrest h

theorem findFrom_eq_none (h : ¬ needle <:+: b) (previous : Option Char) : findFrom needle 0 previous b = none := by
  induction b generalizing previous with
  | nil => rfl
  | cons c b ih =>
    rw [List.infix_cons_iff, not_or] at h
    rw [findFrom, if_neg fun hs => h.1 (startsWith_iff.1 hs), ih h.2]
    rfl

/-- **One step of the search**: the next occurrence is the one, or it continues an identifier and the
search goes on behind it. -/
theorem findFrom_of_cut (hne : needle ≠ []) (h : b.cut? needle = some (x, y)) (previous : Option Char) :
    findFrom needle 0 previous b =
      if isBoundary (x.getLast?.or previous) then some (x, needle ++ y)
      else (findFrom needle 0 needle.getLast? y).map fun (before, found) => (x ++ needle ++ before, found) := by
  induction b generalizing x previous with
  | nil =>
    have := eq_of_cut? h
    simp [hne] at this
  | cons c b ih =>
    rw [cut?] at h
    cases hs : stripStart? (c :: b) needle with
    | some after =>
      simp only [hs, Option.some.injEq, Prod.mk.injEq] at h
      obtain ⟨rfl, rfl⟩ := h
      have hb := stripStart?_eq_some_iff.1 hs
      have hstart : startsWith (c :: b) needle = true := startsWith_iff.2 ⟨after, hb.symm⟩
      obtain ⟨d, rest, rfl⟩ := List.exists_cons_of_ne_nil hne
      obtain ⟨rfl, rfl⟩ : c = d ∧ b = rest ++ after := List.cons.inj hb
      have hlast : rest.getLast?.or (some c) = (c :: rest).getLast? := by
        cases rest <;> simp [List.getLast?_cons]
      rw [findFrom, if_pos hstart, List.length_cons, Nat.add_sub_cancel, findFrom_skip, hlast, Option.map_map]
      rfl
    | none =>
      simp only [hs, Option.map_eq_some_iff] at h
      obtain ⟨⟨u, v⟩, hu, he⟩ := h
      obtain ⟨rfl, rfl⟩ := Prod.mk.inj he
      have hstart : ¬ startsWith (c :: b) needle = true := by
        rw [startsWith_iff]
        exact stripStart?_eq_none_iff.1 hs
      have hlast : (c :: u).getLast?.or previous = u.getLast?.or (some c) := by
        cases u <;> simp [List.getLast?_cons]
      rw [findFrom, if_neg hstart, ih hu, hlast]
      split
      · rfl
      · rw [Option.map_map]
        rfl

/-! ## Occurrences do not overlap -/

/-- A needle that has its last character only there does not overlap itself. -/
theorem eq_nil_of_overlap {u v : Text} (hp : '(' ∉ u ++ v) (h : v ++ '(' :: y = u ++ v ++ '(' :: z) : u = [] := by
  have hv : '(' ∉ v := fun hm => hp (List.mem_append_right u hm)
  have hcut := cut?_char hv y
  rw [h, cut?_char hp z] at hcut
  have hlength := congrArg List.length (Prod.mk.inj (Option.some.inj hcut)).1
  rw [List.length_append] at hlength
  exact List.length_eq_zero_iff.1 (by omega)

/-- A later occurrence begins behind an earlier one. -/
theorem exists_eq_append_of_occurrence {u : Text} (hp : '(' ∉ name) (hu : u ≠ [])
    (h : name ++ '(' :: y = u ++ (name ++ '(' :: z)) : ∃ v, u = name ++ '(' :: v ∧ y = v ++ (name ++ '(' :: z) := by
  rcases List.append_eq_append_iff.1 h with ⟨v, rfl, hv⟩ | ⟨v, rfl, hv⟩
  · cases v with
    | nil =>
      -- only the empty name has two neighbouring occurrences with nothing in between
      exfalso
      cases name with
      | nil => exact hu rfl
      | cons c name =>
        obtain ⟨rfl, -⟩ := List.cons.inj hv
        simp at hp
    | cons d v =>
      obtain ⟨rfl, rfl⟩ := List.cons.inj hv
      exact ⟨v, rfl, rfl⟩
  · exact absurd (eq_nil_of_overlap hp hv.symm) hu

/-! ## The first whole occurrence -/

/-- The needle begins an identifier behind `x`, in a text that itself stands behind a character. -/
structure IsWhole (needle : Text) (previous : Option Char) (x z : Text) : Prop where
  occurs : needle <+: z
  boundary : isBoundary (x.getLast?.or previous) = true

/-- The text is cut in front of its first identifier that the needle begins. -/
structure IsFirst (needle : Text) (previous : Option Char) (b x z : Text) : Prop where
  cut : b = x ++ z
  whole : IsWhole needle previous x z
  least : ∀ x' z', b = x' ++ z' → IsWhole needle previous x' z' → x.length ≤ x'.length

theorem getLast?_behind (x name v : Text) (previous : Option Char) :
    (x ++ (name ++ "(") ++ v).getLast?.or previous = v.getLast?.or (name ++ "(" : Text).getLast? := by
  have hlast : (name ++ "(" : Text).getLast? = some '(' := List.getLast?_concat
  rw [List.getLast?_append, List.getLast?_append, hlast]
  cases v.getLast? <;> rfl

/-- Behind an occurrence that continues an identifier the whole ones are those of the rest. -/
theorem isWhole_behind_iff (hp : '(' ∉ name) (hcut : b.cut? (name ++ "(") = some (x, y))
    (hb : ¬ isBoundary (x.getLast?.or previous) = true) {x' z' : Text} :
    b = x' ++ z' ∧ IsWhole (name ++ "(") previous x' z' ↔
      ∃ v, x' = x ++ (name ++ "(") ++ v ∧ y = v ++ z' ∧ IsWhole (name ++ "(") (name ++ "(" : Text).getLast? v z' := by
  have hbxy : b = x ++ (name ++ "(") ++ y := eq_of_cut? hcut
  constructor
  · rintro ⟨hx, ⟨r, hr⟩, hbound⟩
    have hle : x.length ≤ x'.length := length_le_of_cut? hcut hx ⟨r, hr⟩
    obtain ⟨u, rfl⟩ : ∃ u, x' = x ++ u := by
      have hprefix : x <+: x' ++ z' := hx ▸ hbxy ▸ ⟨(name ++ "(") ++ y, by simp⟩
      obtain ⟨u, hu⟩ := List.prefix_of_prefix_length_le hprefix (List.prefix_append x' z') hle
      exact ⟨u, hu.symm⟩
    have hu : u ≠ [] := by
      rintro rfl
      rw [List.append_nil] at hbound
      exact hb hbound
    have h : name ++ '(' :: y = u ++ (name ++ '(' :: r) := by
      rw [hbxy, ← hr] at hx
      simpa using hx
    obtain ⟨v, rfl, rfl⟩ := exists_eq_append_of_occurrence hp hu h
    refine ⟨v, by simp, by rw [← hr]; simp, ⟨r, hr⟩, ?_⟩
    have := getLast?_behind x name v previous
    rw [← this]
    simpa using hbound
  · rintro ⟨v, rfl, rfl, hoccurs, hbound⟩
    refine ⟨by rw [hbxy]; simp, hoccurs, ?_⟩
    rw [getLast?_behind]
    exact hbound

/-- The search finds the first whole occurrence, or there is none. -/
theorem findFrom_spec (hp : '(' ∉ name) (b : Text) (previous : Option Char) :
    match findFrom (name ++ "(") 0 previous b with
    | some (x, z) => IsFirst (name ++ "(") previous b x z
    | none => ∀ x z, b = x ++ z → ¬ IsWhole (name ++ "(") previous x z := by
  have hne : (name ++ "(" : Text) ≠ [] := by simp
  induction hn : b.length using Nat.strong_induction_on generalizing b previous with
  | _ n ih =>
    cases hcut : b.cut? (name ++ "(") with
    | none =>
      rw [findFrom_eq_none (cut?_eq_none_iff.1 hcut)]
      rintro x z rfl ⟨hoccurs, -⟩
      exact cut?_eq_none_iff.1 hcut (hoccurs.isInfix.trans (List.suffix_append x z).isInfix)
    | some cut =>
      obtain ⟨x, y⟩ := cut
      have hbxy : b = x ++ (name ++ "(") ++ y := eq_of_cut? hcut
      rw [findFrom_of_cut hne hcut]
      by_cases hb : isBoundary (x.getLast?.or previous) = true
      · rw [if_pos hb]
        exact ⟨by rw [hbxy, List.append_assoc], ⟨List.prefix_append .., hb⟩,
          fun x' z' hx' hw => length_le_of_cut? hcut hx' hw.occurs⟩
      · rw [if_neg hb]
        have hlength : y.length < n := by
          rw [← hn, hbxy]
          simp
          omega
        have hrest := ih y.length hlength y (name ++ "(" : Text).getLast? rfl
        cases hfind : findFrom (name ++ "(") 0 (name ++ "(" : Text).getLast? y with
        | none =>
          rw [hfind] at hrest
          intro x' z' hx' hw
          obtain ⟨v, -, hy, hv⟩ := (isWhole_behind_iff hp hcut hb).1 ⟨hx', hw⟩
          exact hrest v z' hy hv
        | some found =>
          obtain ⟨v, z⟩ := found
          rw [hfind] at hrest
          obtain ⟨h1, h2⟩ := (isWhole_behind_iff hp hcut hb).2 ⟨v, rfl, hrest.cut, hrest.whole⟩
          refine ⟨h1, h2, fun x' z' hx' hw => ?_⟩
          obtain ⟨v', rfl, hy, hv⟩ := (isWhole_behind_iff hp hcut hb).1 ⟨hx', hw⟩
          have := hrest.least v' z' hy hv
          simp only [List.length_append] at this ⊢
          omega

theorem IsFirst.unique {x' z' : Text} (h : IsFirst needle previous b x z) (h' : IsFirst needle previous b x' z') :
    x = x' ∧ z = z' :=
  List.append_inj (h.cut.symm.trans h'.cut)
    (Nat.le_antisymm (h.least _ _ h'.cut h'.whole) (h'.least _ _ h.cut h.whole))

/-- **The search is complete.** It cuts a line in front of the first identifier that the needle begins. -/
theorem findIdentifier_eq_some_iff (hp : '(' ∉ name) :
    findIdentifier line (name ++ "(") = some (x, z) ↔ IsFirst (name ++ "(") none line x z := by
  have hspec := findFrom_spec hp line none
  rw [findIdentifier]
  constructor
  · intro h
    rwa [h] at hspec
  · intro h
    cases hfind : findFrom (name ++ "(") 0 none line with
    | none =>
      rw [hfind] at hspec
      exact absurd h.whole (hspec x z h.cut)
    | some found =>
      rw [hfind] at hspec
      obtain ⟨h1, h2⟩ := hspec.unique h
      exact congrArg some (Prod.ext h1 h2)

theorem findIdentifier_isSome_iff (hp : '(' ∉ name) :
    (findIdentifier line (name ++ "(")).isSome = true ↔ ∃ x z, line = x ++ z ∧ IsWhole (name ++ "(") none x z := by
  have hspec := findFrom_spec hp line none
  rw [findIdentifier]
  cases hfind : findFrom (name ++ "(") 0 none line with
  | none =>
    rw [hfind] at hspec
    simp only [Option.isSome_none, Bool.false_eq_true, false_iff, not_exists, not_and]
    exact hspec
  | some found =>
    obtain ⟨x, z⟩ := found
    rw [hfind] at hspec
    exact iff_of_true rfl ⟨x, z, hspec.cut, hspec.whole⟩

end Classwright.Declaration
