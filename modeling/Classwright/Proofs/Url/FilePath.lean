import Mathlib.Data.List.Infix
import Mathlib.Tactic.Common
import Classwright.FileTree
import Classwright.Proofs.Path.Normal
import Classwright.Proofs.Text.Utf8
import Classwright.Url.Basic
/-!
# Paths of URLs

The path of a file that a URL names is absolute (`isAbsolute_of_filePath?`). The URL of a file holds
the components of its path: decoded, they are the bytes of the path that has no others
(`decode_path_of_ofFilePath?`).
-/
namespace Classwright

/-! ## Percent encoding

A name is read back from its escaped form (`decode_encodeUnits`). In any text an escape does not reach over
a slash (`decode_append_slash`), and a byte of ASCII stands there as it is or escaped (`decode_eq_cons`). -/

namespace FileName

@[simp] theorem bytes_nil : bytes [] = [] := rfl

@[simp] theorem bytes_cons (u : Unit8) (n : FileName) : bytes (u :: n) = u.bytes ++ bytes n := rfl

@[simp] theorem bytes_append (m n : FileName) : bytes (m ++ n) = bytes m ++ bytes n := List.flatMap_append

end FileName

namespace Percent

variable {set : List Char} {t : Text} {b : UInt8} {bytes : List UInt8}

/-! ## Reading back -/

theorem decode_cons_of_ne {c : Char} (h : c ≠ '%') (t : Text) : decode (c :: t) = utf8OfChar c ++ decode t := by
  rw [decode]
  rintro a b rest rfl
  exact absurd rfl h

theorem hexValue?_hexDigitUpper : ∀ d < 16, hexValue? (hexDigitUpper d) = some d := by decide

/-- An escape stands for its byte. -/
theorem decode_escape (b : UInt8) (t : Text) : decode (escape b ++ t) = b :: decode t := by
  have hb : b.toNat < 256 := b.toNat_lt
  simp only [escape, List.cons_append, List.nil_append]
  rw [decode, hexValue?_hexDigitUpper _ (by omega), hexValue?_hexDigitUpper _ (by omega)]
  simp only [List.cons.injEq, and_true]
  rw [Nat.div_add_mod' b.toNat 16]
  simp

theorem decode_escapes (bytes : List UInt8) (t : Text) : decode (bytes.flatMap escape ++ t) = bytes ++ decode t := by
  induction bytes with
  | nil => rfl
  | cons b bytes ih => rw [List.flatMap_cons, List.append_assoc, decode_escape, ih, List.cons_append]

/-- Where the percent sign is escaped, a character is read back. -/
theorem decode_encodeChar (hset : '%' ∈ set) (c : Char) (t : Text) :
    decode (encodeChar set c ++ t) = utf8OfChar c ++ decode t := by
  unfold encodeChar
  split
  · exact decode_escapes _ t
  · rename_i h
    apply decode_cons_of_ne
    rintro rfl
    simp [hset] at h

theorem decode_encodeUnits (hset : '%' ∈ set) (name : FileName) (t : Text) :
    decode (name.flatMap (encodeUnit set) ++ t) = name.bytes ++ decode t := by
  induction name with
  | nil => rfl
  | cons u name ih =>
    rw [List.flatMap_cons, List.append_assoc, FileName.bytes_cons, List.append_assoc, ← ih]
    cases u with
    | char c => exact decode_encodeChar hset c _
    | byte b => exact decode_escape b _

/-! ## Reading any text -/

/-- A percent sign begins an escape, or it stands for itself. -/
theorem decode_percent (t : Text) :
    (∃ x y rest v w, t = x :: y :: rest ∧ hexValue? x = some v ∧ hexValue? y = some w ∧
        decode ('%' :: t) = (v * 16 + w).toUInt8 :: decode rest) ∨
      decode ('%' :: t) = 0x25 :: decode t ∧ ∀ x y rest, t = x :: y :: rest → hexValue? x = none ∨ hexValue? y = none := by
  have hself : utf8OfChar '%' = [0x25] := by decide
  match t with
  | [] => exact Or.inr ⟨by simp [decode, hself], by simp⟩
  | [x] =>
    refine Or.inr ⟨?_, by simp⟩
    rw [decode, hself]
    · rfl
    · simp
  | x :: y :: rest =>
    cases hx : hexValue? x with
    | none => exact Or.inr ⟨by rw [decode, hx], by rintro _ _ _ ⟨⟩; exact Or.inl hx⟩
    | some v =>
      cases hy : hexValue? y with
      | none => exact Or.inr ⟨by rw [decode, hx, hy], by rintro _ _ _ ⟨⟩; exact Or.inr hy⟩
      | some w => exact Or.inl ⟨x, y, rest, v, w, rfl, hx, hy, by rw [decode, hx, hy]⟩

/-- An escape does not reach over a slash. -/
theorem decode_append_slash (a b : Text) : decode (a ++ '/' :: b) = decode a ++ 0x2F :: decode b := by
  have hslash : hexValue? '/' = none := by decide
  generalize hn : a.length = n
  induction n using Nat.strongRecOn generalizing a with
  | ind n ih =>
    cases a with
    | nil =>
      rw [List.nil_append, decode_cons_of_ne (by decide)]
      simp [decode, utf8OfChar]
    | cons c a =>
      have ih' : ∀ a' : Text, a'.length ≤ a.length → decode (a' ++ '/' :: b) = decode a' ++ 0x2F :: decode b :=
        fun a' ha => ih a'.length (by rw [← hn, List.length_cons]; omega) a' rfl
      by_cases hc : c = '%'
      · subst hc
        rw [List.cons_append]
        rcases decode_percent (a ++ '/' :: b) with ⟨x, y, rest, v, w, hsplit, hx, hy, hdecode⟩ | ⟨hdecode, hnone⟩
        · obtain ⟨a, rfl, rfl⟩ : ∃ a', a = x :: y :: a' ∧ rest = a' ++ '/' :: b := by
            match a with
            | [] =>
              obtain ⟨rfl, -⟩ := List.cons.inj hsplit
              rw [hslash] at hx
              cases hx
            | [z] =>
              obtain ⟨rfl, -⟩ := List.cons.inj (List.cons.inj hsplit).2
              rw [hslash] at hy
              cases hy
            | z :: z' :: a' =>
              obtain ⟨rfl, htail⟩ := List.cons.inj hsplit
              obtain ⟨rfl, rfl⟩ := List.cons.inj htail
              exact ⟨a', rfl, rfl⟩
          have hshort : decode ('%' :: x :: y :: a) = (v * 16 + w).toUInt8 :: decode a := by rw [decode, hx, hy]
          rw [hdecode, hshort, ih' a (by simp; omega)]
          rfl
        · have hshort : decode ('%' :: a) = 0x25 :: decode a := by
            rcases decode_percent a with ⟨x, y, rest, v, w, rfl, hx, hy, -⟩ | ⟨hdecode, -⟩
            · rcases hnone x y (rest ++ '/' :: b) rfl with h | h
              · rw [hx] at h
                cases h
              · rw [hy] at h
                cases h
            · exact hdecode
          rw [hdecode, hshort, ih' a (Nat.le_refl _)]
          rfl
      · rw [List.cons_append, decode_cons_of_ne hc, decode_cons_of_ne hc, ih' a (Nat.le_refl _), List.append_assoc]

def EscapesSlash (t : Text) : Prop := ['%', '2', 'F'] <:+: t ∨ ['%', '2', 'f'] <:+: t

/-- A hexadecimal digit from its value. -/
theorem toNat_of_hexValue? {c : Char} {v : Nat} (h : hexValue? c = some v) :
    v < 16 ∧ (c.toNat = v + 48 ∧ v < 10 ∨ c.toNat = v + 87 ∧ 10 ≤ v ∨ c.toNat = v + 55 ∧ 10 ≤ v) := by
  have hle : ∀ a b : Char, a ≤ b ↔ a.toNat ≤ b.toNat := fun a b => Iff.rfl
  unfold hexValue? at h
  simp only [hle] at h
  have h0 : '0'.toNat = 48 := rfl
  have h9 : '9'.toNat = 57 := rfl
  have ha : 'a'.toNat = 97 := rfl
  have hf : 'f'.toNat = 102 := rfl
  have hA : 'A'.toNat = 65 := rfl
  have hF : 'F'.toNat = 70 := rfl
  split at h
  · have := Option.some.inj h
    omega
  · split at h
    · have := Option.some.inj h
      omega
    · split at h
      · have := Option.some.inj h
        omega
      · cases h

/-- A byte of ASCII comes from its own character or from an escape. -/
theorem decode_eq_cons (h : decode t = b :: bytes) (hb : b < 0x80) :
    (∃ c rest, t = c :: rest ∧ c.toNat = b.toNat ∧ decode rest = bytes) ∨
      ∃ x y rest v w, t = '%' :: x :: y :: rest ∧ hexValue? x = some v ∧ hexValue? y = some w ∧ v * 16 + w = b.toNat ∧
        decode rest = bytes := by
  cases t with
  | nil => simp [decode] at h
  | cons c t =>
    by_cases hc : c = '%'
    · subst hc
      rcases decode_percent t with ⟨x, y, rest, v, w, rfl, hx, hy, hdecode⟩ | ⟨hdecode, -⟩
      · right
        rw [hdecode] at h
        obtain ⟨rfl, rfl⟩ := List.cons.inj h
        have hv := (toNat_of_hexValue? hx).1
        have hw := (toNat_of_hexValue? hy).1
        refine ⟨x, y, rest, v, w, rfl, hx, hy, ?_, rfl⟩
        have : (v * 16 + w).toUInt8.toNat = (v * 16 + w) % 256 := by simp
        omega
      · left
        rw [hdecode] at h
        obtain ⟨rfl, rfl⟩ := List.cons.inj h
        exact ⟨'%', t, rfl, rfl, rfl⟩
    · left
      rw [decode_cons_of_ne hc] at h
      rcases Nat.lt_or_ge c.toNat 0x80 with hlt | hge
      · rw [utf8OfChar_of_lt hlt] at h
        obtain ⟨rfl, rfl⟩ := List.cons.inj h
        refine ⟨c, t, rfl, ?_, rfl⟩
        have : c.toNat.toUInt8.toNat = c.toNat % 256 := by simp
        omega
      · obtain ⟨hne, hbytes⟩ := utf8OfChar_of_ge hge
        obtain ⟨first, more, hfirst⟩ := List.exists_cons_of_ne_nil hne
        rw [hfirst] at h hbytes
        obtain ⟨rfl, -⟩ := List.cons.inj h
        exact absurd (hbytes first (by simp)) (UInt8.not_le.2 hb)

theorem decode_eq_nil (h : decode t = []) : t = [] := by
  cases t with
  | nil => rfl
  | cons c t =>
    by_cases hc : c = '%'
    · subst hc
      rcases decode_percent t with ⟨x, y, rest, v, w, -, -, -, hdecode⟩ | ⟨hdecode, -⟩
      · rw [hdecode] at h
        cases h
      · rw [hdecode] at h
        cases h
    · rw [decode_cons_of_ne hc] at h
      have hnil := (List.append_eq_nil_iff.1 h).1
      rcases Nat.lt_or_ge c.toNat 0x80 with hlt | hge
      · rw [utf8OfChar_of_lt hlt] at hnil
        cases hnil
      · exact absurd hnil (utf8OfChar_of_ge hge).1

/-- Characters from their numbers. -/
theorem eq_ofNat {c : Char} {n : Nat} (h : c.toNat = n) : c = Char.ofNat n := by rw [← h, Char.ofNat_toNat]

/-- A slash comes from a slash or from an escape of one. -/
theorem slash_of_mem_decode (h : 0x2F ∈ decode t) : '/' ∈ t ∨ EscapesSlash t := by
  have hlift : ∀ {rest t : Text}, rest <:+ t → '/' ∈ rest ∨ EscapesSlash rest → '/' ∈ t ∨ EscapesSlash t := by
    rintro rest t hsuffix (hm | hi | hi)
    · exact Or.inl (hsuffix.subset hm)
    · exact Or.inr (Or.inl (hi.trans hsuffix.isInfix))
    · exact Or.inr (Or.inr (hi.trans hsuffix.isInfix))
  generalize hn : t.length = n
  induction n using Nat.strongRecOn generalizing t with
  | ind n ih =>
    cases t with
    | nil => simp [decode] at h
    | cons c t =>
      have ih' : ∀ rest : Text, rest <:+ t → 0x2F ∈ decode rest → '/' ∈ c :: t ∨ EscapesSlash (c :: t) := by
        intro rest hsuffix hm
        have hlength := hsuffix.length_le
        exact hlift (hsuffix.trans (List.suffix_cons c t)) (ih rest.length (by rw [← hn, List.length_cons]; omega) hm rfl)
      by_cases hc : c = '%'
      · subst hc
        rcases decode_percent t with ⟨x, y, rest, v, w, rfl, hx, hy, hdecode⟩ | ⟨hdecode, -⟩
        · rw [hdecode] at h
          rcases List.mem_cons.1 h with h | h
          · obtain ⟨hv, hx⟩ := toNat_of_hexValue? hx
            obtain ⟨hw, hy⟩ := toNat_of_hexValue? hy
            have h47 : v * 16 + w = 47 := by
              have htoNat : (v * 16 + w).toUInt8.toNat = (v * 16 + w) % 256 := by simp
              rw [← h, Nat.mod_eq_of_lt (by omega)] at htoNat
              exact htoNat.symm
            obtain rfl : x = '2' := eq_ofNat (n := 50) (by omega)
            rcases (by omega : y.toNat = 102 ∨ y.toNat = 70) with hy | hy
            · obtain rfl := eq_ofNat hy
              exact Or.inr (Or.inr (List.prefix_append ['%', '2', 'f'] rest).isInfix)
            · obtain rfl := eq_ofNat hy
              exact Or.inr (Or.inl (List.prefix_append ['%', '2', 'F'] rest).isInfix)
          · exact ih' rest (List.suffix_append [x, y] rest) h
        · rw [hdecode] at h
          rcases List.mem_cons.1 h with h | h
          · exact absurd h (by decide)
          · exact ih' t List.suffix_rfl h
      · rw [decode_cons_of_ne hc] at h
        rcases List.mem_append.1 h with h | h
        · rcases Nat.lt_or_ge c.toNat 0x80 with hlt | hge
          · rw [utf8OfChar_of_lt hlt] at h
            have htoNat : c.toNat.toUInt8.toNat = c.toNat % 256 := by simp
            rw [← List.mem_singleton.1 h, Nat.mod_eq_of_lt (by omega)] at htoNat
            obtain rfl : c = '/' := eq_ofNat htoNat.symm
            exact Or.inl (by simp)
          · exact absurd ((utf8OfChar_of_ge hge).2 _ h) (by decide)
        · exact ih' t List.suffix_rfl h

end Percent
end Classwright

namespace Classwright.Url

/-! ## Paths of files -/

open Path

variable {u : Url} {p : Path}

/-- The path of a URL begins at the root. -/
theorem isAbsolute_of_filePath? (h : u.filePath? = some p) : p.isAbsolute = true := by
  unfold filePath? at h
  split at h
  · rename_i hlocal
    obtain ⟨rest, hrest⟩ : ∃ rest, u.path = '/' :: rest := by
      cases hpath : u.path with
      | nil => simp [hpath] at hlocal
      | cons c rest => simpa [hpath] using hlocal.2
    have hunits : unitsOfBytes (Percent.decode u.path) = slash :: unitsOfBytes (Percent.decode rest) := by
      rw [hrest, Percent.decode_cons_of_ne (by decide), utf8OfChar_of_lt (by decide)]
      exact unitsOfBytes_ascii (by decide) _
    obtain rfl := Option.some.inj h
    rw [isAbsolute, hunits]
    split <;> rfl
  · cases h

theorem isAbsolute_of_ofFilePath? (h : ofFilePath? p = some u) : p.isAbsolute = true := by
  unfold ofFilePath? at h
  split at h
  · assumption
  · cases h

theorem decode_componentTexts (steps : List Component) :
    Percent.decode (steps.flatMap componentText) = FileName.bytes ((steps.map Path.piece).flatMap (slash :: ·)) := by
  induction steps with
  | nil => simp [Percent.decode]
  | cons c steps ih =>
    rw [List.flatMap_cons, componentText, List.cons_append, Percent.decode_cons_of_ne (by decide),
      Percent.decode_encodeUnits (by decide), ih]
    simp [slash, Unit8.bytes]

/-- **The path of a file's URL** stands for the components of the file's path. -/
theorem decode_path_of_ofFilePath? (h : ofFilePath? p = some u) :
    Percent.decode u.path = FileName.bytes (ofComponents p.components).units := by
  have habsolute := isAbsolute_of_ofFilePath? h
  obtain ⟨steps, hp, -⟩ := components_of_absolute habsolute
  rw [ofFilePath?, if_pos habsolute, hp] at h
  obtain rfl := Option.some.inj h
  rw [hp, List.drop_one, List.tail_cons, ofComponents]
  cases steps with
  | nil =>
    show Percent.decode ['/'] = _
    rw [Percent.decode_cons_of_ne (by decide)]
    simp [Percent.decode, joinSlashes, slash, Unit8.bytes]
  | cons c steps =>
    show Percent.decode ((c :: steps).flatMap componentText) = _
    rw [decode_componentTexts, List.map_cons, joinSlashes_cons]
    simp

end Classwright.Url
