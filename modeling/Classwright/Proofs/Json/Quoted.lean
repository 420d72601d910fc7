import Mathlib.Tactic.Common
import Classwright.Json.Basic
import Classwright.Json.Reader
/-!
# Strings in JSON

A string is read from its quoted form, whatever follows the closing quote (`readString_quoted`).
-/
namespace Classwright.Json

theorem hexValue?_hexDigit : ∀ d < 16, hexValue? (hexDigit d) = some d := by decide

theorem hex4?_of_lt {n : Nat} (h : n < 0x20) (rest : Text) :
    hex4? ('0' :: '0' :: hexDigit (n / 16) :: hexDigit (n % 16) :: rest) = some (n, rest) := by
  have h0 : hexValue? '0' = some 0 := by decide
  simp only [hex4?, h0, hexValue?_hexDigit _ (show n / 16 < 16 by omega), hexValue?_hexDigit _ (show n % 16 < 16 by omega),
    Option.bind_eq_bind, Option.bind_some]
  congr 2
  omega

/-- A control character is read from its number. -/
theorem readEscape_control {c : Char} (h : c.toNat < 0x20) (rest : Text) :
    readEscape ('u' :: '0' :: '0' :: hexDigit (c.toNat / 16) :: hexDigit (c.toNat % 16) :: rest) = some (c, rest) := by
  rw [readEscape, hex4?_of_lt h]
  simp only
  rw [if_neg (by omega), if_neg (by omega), Char.ofNat_toNat]

/-- Each character is read from what is written for it. -/
theorem readString_escapeChar (fuel : Nat) (c : Char) (rest : Text) :
    readString (fuel + 1) (escapeChar c ++ rest) = (readString fuel rest).map fun (t, rest) => (c :: t, rest) := by
  have escape : ∀ (e : Char) (r : Text), readEscape (e :: r) = some (c, rest) →
      readString (fuel + 1) ('\\' :: e :: r) = (readString fuel rest).map fun (t, rest) => (c :: t, rest) := fun e r h => by
    rw [readString, if_neg (by decide), if_pos rfl, h]
  unfold escapeChar
  split
  · rename_i h
    obtain rfl : c = '"' := by simpa using h
    exact escape '"' rest rfl
  split
  · rename_i h
    obtain rfl : c = '\\' := by simpa using h
    exact escape '\\' rest rfl
  split
  · rename_i h
    obtain rfl : c = '\n' := by simpa using h
    exact escape 'n' rest rfl
  split
  · rename_i h
    obtain rfl : c = '\r' := by simpa using h
    exact escape 'r' rest rfl
  split
  · rename_i h
    obtain rfl : c = '\t' := by simpa using h
    exact escape 't' rest rfl
  split
  · rename_i h
    obtain rfl : c = '\x08' := Char.toNat_inj.1 (by simpa using h)
    exact escape 'b' rest rfl
  split
  · rename_i h
    obtain rfl : c = '\x0c' := Char.toNat_inj.1 (by simpa using h)
    exact escape 'f' rest rfl
  split
  · rename_i h
    exact escape 'u' _ (readEscape_control h rest)
  · rename_i hquote hback _ _ _ _ _ hcontrol
    rw [List.singleton_append, readString, if_neg (by simpa using hquote), if_neg (by simpa using hback), if_neg hcontrol]

theorem length_escapeChar_pos (c : Char) : 0 < (escapeChar c).length := by
  unfold escapeChar
  split_ifs <;> simp

theorem length_le_length_escaped (t : Text) : t.length ≤ (t.flatMap escapeChar).length := by
  induction t with
  | nil => exact Nat.le_refl 0
  | cons c t ih =>
    have := length_escapeChar_pos c
    rw [List.flatMap_cons, List.length_append, List.length_cons]
    omega

theorem readString_escaped {fuel : Nat} {t : Text} (h : t.length < fuel) (rest : Text) :
    readString fuel (t.flatMap escapeChar ++ '"' :: rest) = some (t, rest) := by
  induction t generalizing fuel with
  | nil =>
    obtain ⟨fuel, rfl⟩ := Nat.exists_eq_add_one_of_ne_zero (Nat.ne_of_gt h)
    rfl
  | cons c t ih =>
    obtain ⟨fuel, rfl⟩ := Nat.exists_eq_add_one_of_ne_zero (show fuel ≠ 0 by omega)
    rw [List.flatMap_cons, List.append_assoc, readString_escapeChar, ih (by simpa using h)]
    rfl

/-- **A string is read** from its quoted form. -/
theorem readString_quoted (t rest : Text) :
    ∃ inner, quoted t ++ rest = '"' :: inner ∧ readString (inner.length + 1) inner = some (t, rest) := by
  refine ⟨t.flatMap escapeChar ++ '"' :: rest, by simp [quoted], readString_escaped ?_ rest⟩
  have := length_le_length_escaped t
  rw [List.length_append]
  omega

end Classwright.Json
