import Mathlib.Tactic.Common
import Classwright.Proofs.Text.Place
import Classwright.Text.Utf8
/-!
# Stretches of bytes

A byte offset is on a boundary when it has whole characters in front of it (`isBoundary_iff`). A
stretch between two boundaries is what a slice may take: it neither leaves the text nor cuts a
character (`isStretch_iff`). Line feeds are bytes of their own, so they can be found among the bytes
(`mem_newlineOffsets_iff`).
-/
namespace Classwright.Text

variable {t a b m : Text} {n start stop : Nat}

/-! ## Boundaries -/

theorem isBoundary_bytes (a b : Text) : isBoundary (a ++ b) a.bytes = true := by
  induction a with
  | nil => cases b <;> rfl
  | cons c a ih =>
    obtain ⟨k, hk⟩ := utf8Size_eq_succ c
    have hs : k + bytes a + 1 - c.utf8Size = bytes a := by omega
    have hle : c.utf8Size ≤ k + bytes a + 1 := by omega
    rw [bytes_cons, hk, List.cons_append, show k + 1 + bytes a = k + bytes a + 1 by omega, isBoundary, hs, ih]
    simp [hle]

/-- **Boundaries are cuts**, with the bytes of what stands in front as their offset. -/
theorem isBoundary_iff : t.isBoundary n = true ↔ ∃ a b, t = a ++ b ∧ n = a.bytes := by
  refine ⟨fun h => ?_, ?_⟩
  · induction t generalizing n with
    | nil =>
      cases n with
      | zero => exact ⟨[], [], rfl, rfl⟩
      | succ n => cases h
    | cons c t ih =>
      cases n with
      | zero => exact ⟨[], c :: t, rfl, rfl⟩
      | succ n =>
        obtain ⟨hle, hb⟩ : c.utf8Size ≤ n + 1 ∧ isBoundary t (n + 1 - c.utf8Size) = true := by
          simpa [isBoundary] using h
        obtain ⟨a, b, rfl, hn⟩ := ih hb
        refine ⟨c :: a, b, rfl, ?_⟩
        rw [bytes_cons]
        omega
  · rintro ⟨a, b, rfl, rfl⟩
    exact isBoundary_bytes a b

/-- No other cut has the same offset. -/
theorem eq_of_bytes_eq {a' b' : Text} (h : a ++ b = a' ++ b') (hn : a.bytes = a'.bytes) : a = a' ∧ b = b' := by
  have hs := splitBytes_bytes a b
  rw [h, hn, splitBytes_bytes] at hs
  exact ⟨(congrArg Prod.fst hs).symm, (congrArg Prod.snd hs).symm⟩

/-- Of two cuts of a text the later one has more in front. -/
theorem exists_eq_append_of_bytes_le {a' b' : Text} (h : a ++ b = a' ++ b') (hle : a.bytes ≤ a'.bytes) :
    ∃ m, a' = a ++ m ∧ b = m ++ b' := by
  rcases List.append_eq_append_iff.1 h with ⟨m, rfl, rfl⟩ | ⟨m, rfl, rfl⟩
  · exact ⟨m, rfl, rfl⟩
  · rw [bytes_append] at hle
    cases m with
    | nil => exact ⟨[], by simp, rfl⟩
    | cons c m =>
      have hpos := c.utf8Size_pos
      rw [bytes_cons] at hle
      omega

/-! ## Stretches -/

/-- The bytes from one offset to another are whole characters of the text. -/
structure IsStretch (t : Text) (start stop : Nat) : Prop where
  le : start ≤ stop
  inside : stop ≤ t.bytes
  startBoundary : t.isBoundary start = true
  stopBoundary : t.isBoundary stop = true

theorem isStretch_iff : t.IsStretch start stop ↔
    ∃ a m b, t = a ++ (m ++ b) ∧ start = a.bytes ∧ stop = a.bytes + m.bytes := by
  constructor
  · rintro ⟨hle, -, h1, h2⟩
    obtain ⟨a, b, hab, rfl⟩ := isBoundary_iff.1 h1
    obtain ⟨a', b', hab', rfl⟩ := isBoundary_iff.1 h2
    obtain ⟨m, rfl, rfl⟩ := exists_eq_append_of_bytes_le (hab.symm.trans hab') hle
    exact ⟨a, m, b', hab, rfl, bytes_append a m⟩
  · rintro ⟨a, m, b, rfl, rfl, rfl⟩
    have hstop := isBoundary_bytes (a ++ m) b
    rw [bytes_append, List.append_assoc] at hstop
    refine ⟨Nat.le_add_right .., ?_, isBoundary_bytes a (m ++ b), hstop⟩
    simp only [bytes_append]
    omega

theorem IsStretch.of_cut (a m b : Text) : (a ++ (m ++ b)).IsStretch a.bytes (a.bytes + m.bytes) :=
  isStretch_iff.2 ⟨a, m, b, rfl, rfl, rfl⟩

/-- Two boundaries in whatever order bound a stretch when the later one counts as its end. -/
theorem IsStretch.of_boundaries (h1 : t.isBoundary start = true) (h2 : t.isBoundary stop = true) :
    t.IsStretch start (max stop start) := by
  have hm : t.isBoundary (max stop start) = true := by
    rcases Nat.le_total stop start with h | h
    · rwa [Nat.max_eq_right h]
    · rwa [Nat.max_eq_left h]
  obtain ⟨a, b, rfl, ha⟩ := isBoundary_iff.1 hm
  exact ⟨Nat.le_max_right .., by rw [ha, bytes_append]; omega, h1, hm⟩

/-! ## Sizes -/

theorem unitsOf_le_utf8Size (c : Char) : unitsOf c ≤ c.utf8Size := by
  have h := c.utf8Size_pos
  unfold unitsOf
  split
  · exact h
  · next hc =>
    have hv : ¬ c.val.toNat ≤ 0xFFFF := fun hle => hc (Nat.lt_succ_of_le hle)
    simp only [Char.utf8Size, UInt32.le_iff_toNat_le]
    split
    · next h1 => exact absurd (Nat.le_trans h1 (by decide)) hv
    · split
      · exact Nat.le_refl 2
      · split <;> omega

/-- A text has no more units than bytes. -/
theorem units_le_bytes (t : Text) : t.units ≤ t.bytes := by
  induction t with
  | nil => exact Nat.le_refl 0
  | cons c t ih => exact Nat.add_le_add (unitsOf_le_utf8Size c) ih

theorem bytes_slice_le (t : Text) (start stop : Nat) : (t.slice start stop).bytes ≤ t.bytes := by
  have h1 := congrArg bytes (splitBytes_append t start)
  have h2 := congrArg bytes (splitBytes_append (t.splitBytes start).2 (stop - start))
  rw [bytes_append] at h1 h2
  unfold slice
  omega

/-! ## Line feeds among the bytes -/

theorem length_utf8OfChar (c : Char) : (utf8OfChar c).length = c.utf8Size := by
  have h1 : c.val ≤ 0x7F ↔ c.toNat < 0x80 := UInt32.le_iff_toNat_le.trans Nat.lt_succ_iff.symm
  have h2 : c.val ≤ 0x7FF ↔ c.toNat < 0x800 := UInt32.le_iff_toNat_le.trans Nat.lt_succ_iff.symm
  have h3 : c.val ≤ 0xFFFF ↔ c.toNat < 0x10000 := UInt32.le_iff_toNat_le.trans Nat.lt_succ_iff.symm
  unfold utf8OfChar Char.utf8Size
  simp only [apply_ite List.length, List.length_cons, List.length_nil]
  simp only [← h1, ← h2, ← h3]
  rfl

theorem length_utf8 (t : Text) : t.utf8.length = t.bytes := by
  induction t with
  | nil => rfl
  | cons c t ih => rw [utf8, List.flatMap_cons, List.length_append, ← utf8, length_utf8OfChar, ih, bytes_cons]

theorem utf8_append (s t : Text) : (s ++ t).utf8 = s.utf8 ++ t.utf8 := List.flatMap_append

/-- Only a line feed has the byte of a line feed. -/
theorem newline_notMem_utf8OfChar {c : Char} (h : c ≠ '\n') : (10 : UInt8) ∉ utf8OfChar c := by
  have hn : c.toNat ≠ 10 := fun he => h (Char.toNat_inj.1 (he.trans (by decide)))
  have hmax : c.toNat < 0x110000 := by
    rcases c.valid with hv | ⟨-, hv⟩
    · exact Nat.lt_trans hv (by decide)
    · exact hv
  have byte : ∀ k : Nat, (10 : UInt8) = k.toUInt8 → 10 = k % 256 := fun k hk => by
    simpa using congrArg UInt8.toNat hk
  unfold utf8OfChar
  intro hm
  simp only at hm
  split at hm
  · have := byte _ (List.mem_singleton.1 hm)
    omega
  · split at hm
    · simp only [List.mem_cons, List.not_mem_nil, or_false] at hm
      rcases hm with hm | hm <;> · have := byte _ hm; omega
    · split at hm
      · simp only [List.mem_cons, List.not_mem_nil, or_false] at hm
        rcases hm with hm | hm | hm <;> · have := byte _ hm; omega
      · simp only [List.mem_cons, List.not_mem_nil, or_false] at hm
        rcases hm with hm | hm | hm | hm <;> · have := byte _ hm; omega

/-- The offsets of the line feeds among the bytes of a text. -/
def newlineOffsets (t : Text) : List Nat := (t.utf8.zipIdx.filter (·.1 == 10)).map (·.2)

theorem mem_newlineOffsets_iff : n ∈ t.newlineOffsets ↔ t.utf8[n]? = some 10 := by
  simp only [newlineOffsets, List.mem_map, List.mem_filter, beq_iff_eq, Prod.exists, exists_eq_right]
  exact List.mem_zipIdx_iff_getElem?

end Classwright.Text
