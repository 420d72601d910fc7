import Mathlib.Tactic.Common
import Classwright.Number.Digits
/-!
# Decimal digits

A number in decimal is a run of digits that make up its value, without a zero in front unless it is
zero (`natText_eq`).
-/
namespace Classwright

theorem isDigit_digitChar : ∀ d < 10, (digitChar d).isDigit = true := by decide

theorem digitValue_digitChar : ∀ d < 10, digitValue (digitChar d) = d := by decide

theorem digitChar_ne_zero : ∀ d < 10, d ≠ 0 → digitChar d ≠ '0' := by decide

def valueFrom (n : Nat) (t : Text) : Nat := t.foldl (fun n c => n * 10 + digitValue c) n

theorem valueFrom_cons (n : Nat) (c : Char) (t : Text) : valueFrom n (c :: t) = valueFrom (n * 10 + digitValue c) t := by
  simp only [valueFrom, List.foldl_cons]

theorem valueFrom_append (n : Nat) (s t : Text) : valueFrom n (s ++ t) = valueFrom (valueFrom n s) t := List.foldl_append

theorem le_valueFrom (n : Nat) (t : Text) : n ≤ valueFrom n t := by
  induction t generalizing n with
  | nil => exact Nat.le_refl n
  | cons c t ih =>
    have := ih (n * 10 + digitValue c)
    rw [valueFrom_cons]
    omega

/-- The digits that are put in front of a text: they are digits, make up the number, and begin with
the digit of its highest place. -/
theorem digitsBefore_eq (fuel n : Nat) (after : Text) (h : n < fuel) : ∃ d digits,
    digitsBefore fuel n after = digitChar d :: digits ++ after ∧ d < 10 ∧ (d = 0 → n = 0 ∧ digits = []) ∧
      digits.all Char.isDigit = true ∧ valueFrom d digits = n := by
  induction fuel generalizing n after with
  | zero => omega
  | succ fuel ih =>
    rw [digitsBefore]
    split
    · rename_i hn
      exact ⟨n, [], rfl, hn, fun h => ⟨h, rfl⟩, rfl, rfl⟩
    · rename_i hn
      obtain ⟨d, digits, heq, hd, hzero, hall, hvalue⟩ := ih (n / 10) (digitChar (n % 10) :: after) (by omega)
      have hlast : n % 10 < 10 := Nat.mod_lt n (by omega)
      refine ⟨d, digits ++ [digitChar (n % 10)], by simp [heq], hd, fun h => ?_, ?_, ?_⟩
      · have := (hzero h).1
        omega
      · rw [List.all_append, hall]
        simp [isDigit_digitChar _ hlast]
      · rw [valueFrom_append, hvalue, valueFrom_cons, digitValue_digitChar _ hlast]
        exact Nat.div_add_mod' n 10

theorem natText_eq (n : Nat) : ∃ d digits, natText n = digitChar d :: digits ∧ d < 10 ∧ (d = 0 → n = 0 ∧ digits = []) ∧
    digits.all Char.isDigit = true ∧ valueFrom d digits = n := by
  obtain ⟨d, digits, heq, h⟩ := digitsBefore_eq (n + 1) n [] (by omega)
  exact ⟨d, digits, by rw [natText, heq, List.append_nil], h⟩

theorem isDigit_of_mem_natText {n : Nat} {c : Char} (h : c ∈ natText n) : c.isDigit = true := by
  obtain ⟨d, digits, heq, hd, -, hall, -⟩ := natText_eq n
  rw [heq] at h
  rcases List.mem_cons.1 h with rfl | h
  · exact isDigit_digitChar d hd
  · exact List.all_eq_true.1 hall c h

/-- **A number below the bound** is read back. -/
theorem natBelow?_natText {bound n : Nat} (h : n < bound) : natBelow? bound (natText n) = some n := by
  obtain ⟨d, digits, heq, hd, -, hall, hvalue⟩ := natText_eq n
  have hplus : '+' ≠ digitChar d := fun hc => by
    have := isDigit_digitChar d hd
    rw [← hc] at this
    cases this
  have hdigits : valueOfDigits (digitChar d :: digits) = n := by
    show valueFrom 0 (digitChar d :: digits) = n
    rw [valueFrom_cons, digitValue_digitChar d hd, Nat.zero_mul, Nat.zero_add, hvalue]
  have hsign : (Text.stripStart? (digitChar d :: digits) ['+']).getD (digitChar d :: digits) = digitChar d :: digits := by
    rw [Text.stripStart?, if_neg hplus]
    rfl
  have hall : (digitChar d :: digits).all Char.isDigit = true := by
    rw [List.all_cons, isDigit_digitChar d hd, hall]
    rfl
  rw [heq, natBelow?, hsign, hall, hdigits]
  simp [h]

end Classwright
