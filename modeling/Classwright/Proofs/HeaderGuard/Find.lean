import Classwright.HeaderGuard
import Classwright.Proofs.Text.Lines
import Classwright.Proofs.Text.Search
/-!
# Where a guard is found

A search for a directive reads the text from each of its lines on (`getElem?_lineTails`). What the
three searches of a guard give decides whether one is found and on which lines (`find?_eq_some_iff`);
the directives differ, so these lines follow one another (`lines_of_find?`).
-/
namespace Classwright.HeaderGuard

open Text

variable {t key : Text} {n : Nat} {w : Lines}

/-! ## Searches over lines -/

theorem getElem?_lineTails (t : Text) (n : Nat) :
    (lineTails t)[n]? = if n < t.pieces.length then some (t.fromLine n) else none := by
  induction t generalizing n with
  | nil => cases n <;> simp [lineTails, tailsAfter]
  | cons c t ih =>
    by_cases hc : c = '\n'
    · subst hc
      have e : lineTails ('\n' :: t) = ('\n' :: t) :: lineTails t := by simp [lineTails, tailsAfter]
      cases n with
      | zero => simp [e]
      | succ n =>
        rw [e, List.getElem?_cons_succ, ih, fromLine_newline, pieces_newline, List.length_cons]
        simp only [Nat.add_lt_add_iff_right]
    · have e : lineTails (c :: t) = (c :: t) :: tailsAfter t := by simp [lineTails, tailsAfter, hc]
      cases n with
      | zero => simp [e, length_pieces_pos]
      | succ n =>
        obtain ⟨first, more, h1, h2⟩ := pieces_cons_of_ne hc t
        have hi := ih (n + 1)
        rw [lineTails, List.getElem?_cons_succ, h1] at hi
        rw [e, List.getElem?_cons_succ, hi, fromLine_cons_of_ne hc, h2]
        rfl

section Search

variable {α : Type} {read : Text → Option α} {a : α} {tails : List Text}

theorem firstLine?_eq_some_iff : firstLine? read tails = some (n, a) ↔
    tails[n]?.bind read = some a ∧ ∀ m < n, tails[m]?.bind read = none := by
  induction tails generalizing n with
  | nil => simp [firstLine?]
  | cons u tails ih =>
    rw [firstLine?]
    cases hu : read u with
    | some b =>
      cases n with
      | zero => simp [hu]
      | succ n =>
        constructor
        · simp
        · rintro ⟨-, h⟩
          have := h 0 (Nat.succ_pos n)
          simp [hu] at this
    | none =>
      cases n with
      | zero => simp [hu]
      | succ n =>
        have hmap : (firstLine? read tails).map (fun (n, a) => (n + 1, a)) = some (n + 1, a) ↔
            firstLine? read tails = some (n, a) := by
          simp
        simp only [hmap, ih, Nat.forall_lt_succ_left, List.getElem?_cons_succ, List.getElem?_cons_zero,
          Option.bind_some, hu, true_and]

theorem firstLine?_eq_none_iff : firstLine? read tails = none ↔ ∀ n : Nat, tails[n]?.bind read = none := by
  constructor
  · intro h n
    induction tails generalizing n with
    | nil => simp
    | cons u tails ih =>
      rw [firstLine?] at h
      cases hu : read u with
      | some b => simp [hu] at h
      | none =>
        rw [hu, Option.map_eq_none_iff] at h
        cases n with
        | zero => simpa using hu
        | succ n => simpa using ih h n
  · intro h
    rw [Option.eq_none_iff_forall_not_mem]
    rintro ⟨n, a⟩ hn
    have := (firstLine?_eq_some_iff.1 hn).1
    rw [h n] at this
    cases this

/-- Reading at a line of a text is reading the text from there on, and at the end of a text nothing is read. -/
theorem bind_getElem?_lineTails (h : read [] = none) (t : Text) (n : Nat) :
    (lineTails t)[n]?.bind read = read (t.fromLine n) := by
  rw [getElem?_lineTails]
  split
  · rfl
  · next hn => rw [fromLine_eq_nil (by omega), h]; rfl

/-- **The first line** at which something is read. -/
theorem firstLine?_lineTails (h : read [] = none) : firstLine? read (lineTails t) = some (n, a) ↔
    read (t.fromLine n) = some a ∧ ∀ m < n, read (t.fromLine m) = none := by
  simp only [firstLine?_eq_some_iff, bind_getElem?_lineTails h]

theorem firstLine?_lineTails_eq_none (h : read [] = none) :
    firstLine? read (lineTails t) = none ↔ ∀ n, read (t.fromLine n) = none := by
  simp only [firstLine?_eq_none_iff, bind_getElem?_lineTails h]

end Search

theorem getElem?_of_lastLine? {p : Text → Bool} {tails : List Text} (h : lastLine? p tails = some n) :
    ∃ u, tails[n]? = some u ∧ p u = true := by
  induction tails generalizing n with
  | nil => cases h
  | cons u tails ih =>
    rw [lastLine?] at h
    cases hl : lastLine? p tails with
    | some k =>
      rw [hl] at h
      cases h
      exact ih hl
    | none =>
      rw [hl] at h
      simp only [Option.ite_none_right_eq_some, Option.some.injEq] at h
      obtain ⟨hu, rfl⟩ := h
      exact ⟨u, rfl, hu⟩

/-! ## What readers begin with -/

theorem prefix_of_macroAfter? {name : Text} (h : macroAfter? key t = some name) : key <+: t := by
  simp only [macroAfter?, Option.bind_eq_bind, Option.bind_eq_some_iff] at h
  obtain ⟨s, hs, -⟩ := h
  exact ⟨s, (stripStart?_eq_some_iff.1 hs).symm⟩

/-- The start of every closing directive. -/
def endifKey : Text := "#endif"

theorem prefix_of_endifBlock? {name : Text} (h : endifBlock? t = some name) : endifKey <+: t := by
  simp only [endifBlock?, Option.bind_eq_bind, Option.bind_eq_some_iff] at h
  obtain ⟨s, hs, -⟩ := h
  exact ⟨s, (stripStart?_eq_some_iff.1 hs).symm⟩

theorem prefix_of_endifLine? {name : Text} (h : endifLine? t = some name) : endifKey <+: t := by
  simp only [endifLine?, Option.bind_eq_bind, Option.bind_eq_some_iff] at h
  obtain ⟨s, hs, -⟩ := h
  exact ⟨s, (stripStart?_eq_some_iff.1 hs).symm⟩

theorem prefix_of_isBareEndif (h : isBareEndif t = true) : endifKey <+: t := by
  simp only [isBareEndif, Option.any_eq_true] at h
  obtain ⟨s, hs, -⟩ := h
  exact ⟨s, (stripStart?_eq_some_iff.1 hs).symm⟩

theorem prefix_of_closing? {closed : Option Text} (h : closing? (lineTails t) = some (n, closed)) :
    endifKey <+: t.fromLine n := by
  unfold closing? at h
  cases hb : firstLine? endifBlock? (lineTails t) with
  | some found =>
    rw [hb] at h
    cases h
    exact prefix_of_endifBlock? ((firstLine?_lineTails rfl).1 hb).1
  | none =>
    rw [hb] at h
    cases hl : firstLine? endifLine? (lineTails t) with
    | some found =>
      rw [hl] at h
      cases h
      exact prefix_of_endifLine? ((firstLine?_lineTails rfl).1 hl).1
    | none =>
      simp only [hl, Option.map_eq_some_iff, Prod.mk.injEq] at h
      obtain ⟨k, hk, rfl, -⟩ := h
      obtain ⟨u, hu, hp⟩ := getElem?_of_lastLine? hk
      rw [getElem?_lineTails, Option.ite_none_right_eq_some, Option.some.injEq] at hu
      rw [hu.2]
      exact prefix_of_isBareEndif hp

/-- A text that begins with one directive does not begin with another. -/
theorem not_prefix_of_prefix {key' : Text} (h : key' <+: t) (hk : ¬ key <+: key') (hk' : ¬ key' <+: key) :
    ¬ key <+: t := by
  intro hp
  rcases List.prefix_or_prefix_of_prefix hp h with hp | hp
  · exact hk hp
  · exact hk' hp

/-- Directives that begin in different ways stand on different lines. -/
theorem ne_of_prefix {key' : Text} {m : Nat} (h : key <+: t.fromLine n) (h' : key' <+: t.fromLine m)
    (hk : ¬ key <+: key') (hk' : ¬ key' <+: key) : n ≠ m := by
  rintro rfl
  exact not_prefix_of_prefix h' hk hk' h

/-! ## The lines of a guard -/

/-- **A guard is found** when the first `#ifndef`, the first `#define` and the closing directive agree
and come in this order. -/
theorem find?_eq_some_iff : find? t = some w ↔ ∃ name closed,
    firstLine? (macroAfter? "#ifndef") (lineTails t) = some (w.ifndef, name) ∧
    firstLine? (macroAfter? "#define") (lineTails t) = some (w.define, name) ∧
    closing? (lineTails t) = some (w.endif, closed) ∧ closed.all (· == name) = true ∧
    w.ifndef ≤ w.define ∧ w.define ≤ w.endif := by
  simp only [find?, Option.bind_eq_bind, Option.bind_eq_some_iff, Prod.exists, Option.ite_none_right_eq_some,
    Option.some.injEq]
  constructor
  · rintro ⟨a, name, ha, b, _, hb, c, closed, hc, ⟨rfl, hn, hab, hbc⟩, rfl⟩
    exact ⟨_, closed, ha, hb, hc, hn, hab, hbc⟩
  · rintro ⟨name, closed, ha, hb, hc, hn, hab, hbc⟩
    exact ⟨_, name, ha, _, name, hb, _, closed, hc, ⟨rfl, hn, hab, hbc⟩, rfl⟩

/-- **The lines of a guard** are lines of the text, one behind the other. -/
theorem lines_of_find? (h : find? t = some w) :
    w.ifndef < w.define ∧ w.define < w.endif ∧ w.endif < t.pieces.length := by
  obtain ⟨name, closed, ha, hb, hc, -, hab, hbc⟩ := find?_eq_some_iff.1 h
  have hi := prefix_of_macroAfter? ((firstLine?_lineTails rfl).1 ha).1
  have hd := prefix_of_macroAfter? ((firstLine?_lineTails rfl).1 hb).1
  have he := prefix_of_closing? hc
  have h1 : w.ifndef ≠ w.define := ne_of_prefix hi hd (by decide) (by decide)
  have h2 : w.define ≠ w.endif := ne_of_prefix hd he (by decide) (by decide)
  refine ⟨by omega, by omega, ?_⟩
  by_contra hlt
  rw [fromLine_eq_nil (by omega)] at he
  exact absurd he (by decide)

end Classwright.HeaderGuard
