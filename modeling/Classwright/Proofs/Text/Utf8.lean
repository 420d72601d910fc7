import Mathlib.Tactic.Common
import Classwright.Text.Utf8
/-!
# Bytes of ASCII

A character of ASCII is one byte, and no other character has such a byte (`utf8OfChar_of_ge`,
`charAt?_eq_some`). So bytes can be read in two parts where a slash is between them
(`unitsAfter_append_slash`).
-/
namespace Classwright

variable {a b : UInt8} {x y : List UInt8} {c : Char} {n : Nat}

/-! ## Bytes of characters -/

theorem utf8OfChar_of_lt (h : c.toNat < 0x80) : utf8OfChar c = [c.toNat.toUInt8] := by simp [utf8OfChar, h]

theorem le_toUInt8 (h : 0x80 ≤ n) (h' : n < 256) : (0x80 : UInt8) ≤ n.toUInt8 := by
  have hn : n.toUInt8.toNat = n % 256 := by simp
  rw [UInt8.le_iff_toNat_le, hn, Nat.mod_eq_of_lt h']
  exact h

/-- A character beyond ASCII has no bytes of ASCII. -/
theorem utf8OfChar_of_ge (h : 0x80 ≤ c.toNat) : utf8OfChar c ≠ [] ∧ ∀ b ∈ utf8OfChar c, 0x80 ≤ b := by
  have hvalid : c.toNat < 0x110000 := by
    have := c.valid
    simp only [UInt32.isValidChar, Nat.isValidChar] at this
    show c.val.toNat < 0x110000
    omega
  simp only [utf8OfChar, if_neg (Nat.not_lt.2 h)]
  split
  · simp only [List.forall_mem_cons, ne_eq, reduceCtorEq, not_false_eq_true, true_and]
    exact ⟨le_toUInt8 (by omega) (by omega), le_toUInt8 (by omega) (by omega), by simp⟩
  · split
    · simp only [List.forall_mem_cons, ne_eq, reduceCtorEq, not_false_eq_true, true_and]
      exact ⟨le_toUInt8 (by omega) (by omega), le_toUInt8 (by omega) (by omega), le_toUInt8 (by omega) (by omega), by simp⟩
    · simp only [List.forall_mem_cons, ne_eq, reduceCtorEq, not_false_eq_true, true_and]
      exact ⟨le_toUInt8 (by omega) (by omega), le_toUInt8 (by omega) (by omega), le_toUInt8 (by omega) (by omega),
        le_toUInt8 (by omega) (by omega), by simp⟩

/-- A byte of ASCII is a character of its own. -/
theorem unitsOfBytes_ascii (h : b < 0x80) (bytes : List UInt8) :
    unitsOfBytes (b :: bytes) = .char (Char.ofNat b.toNat) :: unitsOfBytes bytes := by
  simp [unitsOfBytes, unitsAfter, charAt?, h]

/-! ## Characters of bytes -/

/-- A slash goes on no character. -/
theorem mayFollow_slash (first : UInt8) : mayFollow first 0x2F = false := by
  unfold mayFollow
  split
  · decide
  · split
    · decide
    · split
      · decide
      · split <;> decide

/-- A character is read up to a slash, and ASCII from its own byte. -/
theorem charAt?_append_slash (a : UInt8) (x y : List UInt8) : charAt? (a :: (x ++ 0x2F :: y)) = charAt? (a :: x) := by
  have hfollow := mayFollow_slash a
  have hcontinue : isContinuation 0x2F = false := by decide
  match x with
  | [] => rcases y with _ | ⟨y₁, _ | ⟨y₂, y⟩⟩ <;> simp [charAt?, hcontinue, hfollow]
  | [b] => rcases y with _ | ⟨y₁, y⟩ <;> simp [charAt?, hcontinue]
  | [b, c] => simp [charAt?, hcontinue]
  | b :: c :: d :: x => simp [charAt?]

theorem toNat_of_isContinuation (h : isContinuation b = true) : 128 ≤ b.toNat ∧ b.toNat < 192 := by
  simpa [isContinuation, UInt8.le_iff_toNat_le, UInt8.lt_iff_toNat_lt] using h

theorem toNat_of_mayFollow (h : mayFollow a b = true) : 128 ≤ b.toNat ∧ b.toNat < 192 ∧ (a.toNat = 224 → 160 ≤ b.toNat) ∧
    (a.toNat = 237 → b.toNat < 160) ∧ (a.toNat = 240 → 144 ≤ b.toNat) ∧ (a.toNat = 244 → b.toNat < 144) := by
  simp only [mayFollow, isContinuation, beq_iff_eq, ← UInt8.toNat_inj, UInt8.reduceToNat] at h
  split at h
  · simp only [Bool.and_eq_true, decide_eq_true_eq, UInt8.le_iff_toNat_le, UInt8.lt_iff_toNat_lt, UInt8.reduceToNat] at h
    omega
  · split at h
    · simp only [Bool.and_eq_true, decide_eq_true_eq, UInt8.le_iff_toNat_le, UInt8.lt_iff_toNat_lt, UInt8.reduceToNat] at h
      omega
    · split at h
      · simp only [Bool.and_eq_true, decide_eq_true_eq, UInt8.le_iff_toNat_le, UInt8.lt_iff_toNat_lt, UInt8.reduceToNat] at h
        omega
      · split at h
        · simp only [Bool.and_eq_true, decide_eq_true_eq, UInt8.le_iff_toNat_le, UInt8.lt_iff_toNat_lt, UInt8.reduceToNat] at h
          omega
        · simp only [Bool.and_eq_true, decide_eq_true_eq, UInt8.le_iff_toNat_le, UInt8.lt_iff_toNat_lt, UInt8.reduceToNat] at h
          omega

/-- The bytes of a character are there, and a character of ASCII is its own byte. -/
theorem charAt?_eq_some (h : charAt? (a :: x) = some (c, n)) : n ≤ x.length ∧ (c.toNat < 0x80 → a.toNat = c.toNat ∧ n = 0) := by
  have hvalid : ∀ v, v.isValidChar → (Char.ofNat v).toNat = v := fun v hv => by
    rw [Char.ofNat, dif_pos hv]
    rfl
  unfold charAt? at h
  simp only [UInt8.lt_iff_toNat_lt, UInt8.reduceToNat] at h
  split at h
  · simp only [Option.some.injEq, Prod.mk.injEq] at h
    obtain ⟨rfl, rfl⟩ := h
    exact ⟨Nat.zero_le _, fun _ => ⟨(hvalid _ (Or.inl (by omega))).symm, rfl⟩⟩
  · split at h
    · cases h
    · split at h
      · split at h
        · split at h
          · next b _ hb =>
            simp only [Option.some.injEq, Prod.mk.injEq] at h
            obtain ⟨rfl, rfl⟩ := h
            have hb := toNat_of_isContinuation hb
            unfold continuationBits
            rw [hvalid _ (Or.inl (by omega))]
            exact ⟨by simp, by omega⟩
          · cases h
        · cases h
      · split at h
        · split at h
          · split at h
            · next b d _ hbd =>
              simp only [Option.some.injEq, Prod.mk.injEq] at h
              obtain ⟨rfl, rfl⟩ := h
              simp only [Bool.and_eq_true] at hbd
              have hb := toNat_of_mayFollow hbd.1
              have hd := toNat_of_isContinuation hbd.2
              unfold continuationBits
              rw [hvalid]
              · exact ⟨by simp, by omega⟩
              · unfold Nat.isValidChar
                omega
            · cases h
          · cases h
        · split at h
          · split at h
            · split at h
              · next b d e _ hbde =>
                simp only [Option.some.injEq, Prod.mk.injEq] at h
                obtain ⟨rfl, rfl⟩ := h
                simp only [Bool.and_eq_true] at hbde
                have hb := toNat_of_mayFollow hbde.1.1
                have hd := toNat_of_isContinuation hbde.1.2
                have he := toNat_of_isContinuation hbde.2
                unfold continuationBits
                rw [hvalid]
                · exact ⟨by simp, by omega⟩
                · unfold Nat.isValidChar
                  omega
              · cases h
            · cases h
          · cases h

theorem unitsAfter_append_slash (hn : n ≤ x.length) (y : List UInt8) :
    unitsAfter n (x ++ 0x2F :: y) = unitsAfter n x ++ Unit8.char '/' :: unitsOfBytes y := by
  induction x generalizing n with
  | nil =>
    obtain rfl : n = 0 := by simpa using hn
    exact unitsOfBytes_ascii (by decide) y
  | cons a x ih =>
    cases n with
    | succ n => exact ih (by simpa using hn)
    | zero =>
      rw [List.cons_append, unitsAfter, unitsAfter, charAt?_append_slash]
      cases hchar : charAt? (a :: x) with
      | none =>
        simp only
        rw [ih (Nat.zero_le _)]
        rfl
      | some found =>
        obtain ⟨c, more⟩ := found
        simp only
        rw [ih (charAt?_eq_some hchar).1]
        rfl

theorem exists_byte_of_mem_unitsAfter (hc : c.toNat < 0x80) (h : .char c ∈ unitsAfter n x) : ∃ b ∈ x, b.toNat = c.toNat := by
  induction x generalizing n with
  | nil => simp [unitsAfter] at h
  | cons a x ih =>
    have hrest : ∀ n, .char c ∈ unitsAfter n x → ∃ b ∈ a :: x, b.toNat = c.toNat := by
      intro n hm
      obtain ⟨b, hb, heq⟩ := ih hm
      exact ⟨b, by simp [hb], heq⟩
    cases n with
    | succ n => exact hrest n h
    | zero =>
      rw [unitsAfter] at h
      cases hchar : charAt? (a :: x) with
      | none =>
        simp only [hchar] at h
        rcases List.mem_cons.1 h with h | h
        · cases h
        · exact hrest 0 h
      | some found =>
        obtain ⟨c', more⟩ := found
        simp only [hchar] at h
        rcases List.mem_cons.1 h with h | h
        · obtain rfl := Unit8.char.inj h
          exact ⟨a, by simp, ((charAt?_eq_some hchar).2 hc).1⟩
        · exact hrest more h

theorem unitsOfBytes_eq_nil (h : unitsOfBytes x = []) : x = [] := by
  cases x with
  | nil => rfl
  | cons a x =>
    rw [unitsOfBytes, unitsAfter] at h
    split at h <;> cases h

/-- A first character of ASCII is the first byte. -/
theorem unitsOfBytes_eq_cons {units : List Unit8} (hc : c.toNat < 0x80) (h : unitsOfBytes x = .char c :: units) :
    ∃ b rest, x = b :: rest ∧ b.toNat = c.toNat ∧ unitsOfBytes rest = units := by
  cases x with
  | nil => simp [unitsOfBytes, unitsAfter] at h
  | cons a x =>
    rw [unitsOfBytes, unitsAfter] at h
    cases hchar : charAt? (a :: x) with
    | none =>
      simp only [hchar] at h
      cases (List.cons.inj h).1
    | some found =>
      obtain ⟨c', more⟩ := found
      simp only [hchar] at h
      obtain ⟨hchar', hunits⟩ := List.cons.inj h
      obtain rfl := Unit8.char.inj hchar'
      obtain ⟨htoNat, rfl⟩ := (charAt?_eq_some hchar).2 hc
      exact ⟨a, x, rfl, htoNat, hunits⟩

/-! ## Units of a text -/

theorem text?_eq_some_iff {units : List Unit8} {t : Text} : text? units = some t ↔ units = t.toUnits := by
  constructor
  · intro h
    induction units generalizing t with
    | nil =>
      obtain rfl := Option.some.inj h
      rfl
    | cons u units ih =>
      cases u with
      | byte b => cases h
      | char c =>
        rw [text?, Option.map_eq_some_iff] at h
        obtain ⟨rest, hrest, rfl⟩ := h
        rw [ih hrest]
        rfl
  · rintro rfl
    exact text?_toUnits t

end Classwright
