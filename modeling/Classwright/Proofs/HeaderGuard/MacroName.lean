import Mathlib.Data.List.Infix
import Mathlib.Data.List.TakeWhile
import Classwright.HeaderGuard
import Classwright.Proofs.Text.Search
/-!
# The macro of a file

The macro of a file is made from its base name without the last extension (`IsBaseName`, `IsStem`). With the
usual pattern it has letters, digits and underscores only, so a macro can have this name, unless the base name
begins with a digit (`isMacroName_nameOf_iff`).
-/
namespace Classwright.HeaderGuard

open Text

variable {t name ext file base : Text} {c : Char}

/-! ## The base name -/

/-- A character that divides the names of a path, in either style. -/
def isSeparator (c : Char) : Bool := c == '/' || c == '\\'

/-- The last name of a path: no separator is in it, and it stands behind one or at the start. -/
structure IsBaseName (file base : Text) : Prop where
  plain : base.any isSeparator = false
  behind : ∃ dirs, file = dirs ++ base ∧ dirs.getLast?.all isSeparator = true

theorem baseName_eq_takeWhile (file : Text) : baseName file = (file.reverse.takeWhile (!isSeparator ·)).reverse := by
  have hstop : (fun c : Char => c != '/' && c != '\\') = (!isSeparator ·) := by
    funext c
    rw [isSeparator, Bool.not_or]
    rfl
  rw [baseName, hstop]

theorem IsBaseName.baseName_eq (h : IsBaseName file base) : baseName file = base := by
  obtain ⟨hplain, dirs, rfl, hlast⟩ := h
  have hbase : ∀ c ∈ base.reverse, (!isSeparator c) = true := by
    intro c hc
    rw [Bool.not_eq_true', ← Bool.not_eq_true]
    exact List.any_eq_false.1 hplain c (List.mem_reverse.1 hc)
  -- read from the end, the path stops at the separator
  have hdirs : dirs.reverse.takeWhile (!isSeparator ·) = [] := by
    rw [← List.head?_reverse] at hlast
    cases hr : dirs.reverse with
    | nil => rfl
    | cons c rest =>
      rw [hr, List.head?_cons, Option.all_some] at hlast
      exact List.takeWhile_cons_of_neg (by simp [hlast])
  rw [baseName_eq_takeWhile, List.reverse_append, List.takeWhile_append_of_pos hbase, hdirs, List.append_nil,
    List.reverse_reverse]

theorem baseName_of_notMem (hslash : '/' ∉ t) (hback : '\\' ∉ t) : baseName t = t := by
  have hplain : t.any isSeparator = false := by
    rw [List.any_eq_false]
    intro c hc
    simp only [isSeparator, Bool.or_eq_true, beq_iff_eq, not_or]
    exact ⟨fun h => hslash (h ▸ hc), fun h => hback (h ▸ hc)⟩
  exact IsBaseName.baseName_eq ⟨hplain, [], rfl, rfl⟩

/-! ## The last extension -/

/-- A base name without its last extension. A dot in front begins no extension. -/
inductive IsStem (base : Text) : Text → Prop where
  | extension {name ext : Text} (name_ne : name ≠ []) (dot_notMem : '.' ∉ ext) (eq : base = name ++ '.' :: ext) : IsStem base name
  | whole (dot_notMem : '.' ∉ base.tail) : IsStem base base

/-- The extension is what stands behind the last dot. -/
theorem stem_append (hne : name ≠ []) (h : '.' ∉ ext) : stem (name ++ '.' :: ext) = name := by
  have hcut : (name ++ '.' :: ext).cutLast? ['.'] = some (name, ext) := cutLast?_char_eq_some_iff.2 ⟨rfl, h⟩
  rw [stem, hcut]
  simp [hne]

theorem stem_of_notMem_tail (h : '.' ∉ t.tail) : stem t = t := by
  cases hcut : t.cutLast? ['.'] with
  | none => rw [stem, hcut]
  | some cut =>
    obtain ⟨before, after⟩ := cut
    cases before with
    | nil =>
      rw [stem, hcut]
      rfl
    | cons c before =>
      rw [(cutLast?_char_eq_some_iff.1 hcut).1] at h
      exact absurd (by simp) h

theorem IsStem.stem_eq (h : IsStem base name) : stem base = name := by
  cases h with
  | extension hne hdot heq => rw [heq, stem_append hne hdot]
  | whole hdot => exact stem_of_notMem_tail hdot

theorem isStem_stem (base : Text) : IsStem base (stem base) := by
  cases hcut : base.cutLast? ['.'] with
  | none =>
    have hdot : '.' ∉ base := fun hm => cutLast?_eq_none_iff.1 hcut ((List.singleton_infix_iff ..).2 hm)
    have hwhole : '.' ∉ base.tail := fun hm => hdot (List.mem_of_mem_tail hm)
    rw [stem_of_notMem_tail hwhole]
    exact .whole hwhole
  | some cut =>
    obtain ⟨before, ext⟩ := cut
    obtain ⟨rfl, hdot⟩ := cutLast?_char_eq_some_iff.1 hcut
    cases before with
    | nil =>
      have hwhole : '.' ∉ ([] ++ '.' :: ext : Text).tail := hdot
      rw [stem_of_notMem_tail hwhole]
      exact .whole hwhole
    | cons c before =>
      have hne : c :: before ≠ [] := List.cons_ne_nil c before
      rw [stem_append hne hdot]
      exact .extension hne hdot rfl

theorem IsStem.ne_nil (h : IsStem base name) (hne : base ≠ []) : name ≠ [] := by
  cases h with
  | extension hname => exact hname
  | whole => exact hne

/-- A name begins as its stem does. -/
theorem IsStem.head?_eq (h : IsStem base name) : name.head? = base.head? := by
  cases h with
  | extension hne _ heq => rw [heq, List.head?_append_of_ne_nil _ hne]
  | whole => rfl

/-! ## Names of macros -/

/-- A character of a macro name: a letter, a digit or an underscore. -/
def isMacroChar (c : Char) : Bool := c.isAlphanum || c == '_'

/-- A name that a macro can have: its first character is no digit. -/
structure IsMacroName (t : Text) : Prop where
  ne_nil : t ≠ []
  chars : t.all isMacroChar = true
  head : t.head?.any Char.isDigit = false

/-- Letters and digits are ASCII characters. -/
theorem toNat_lt_of_isAlphanum (h : c.isAlphanum = true) : c.toNat < 0x80 := by
  have hranges : (decide (c.val ≥ 'A'.val ∧ c.val ≤ 'Z'.val) || decide (c.val ≥ 'a'.val) && decide (c.val ≤ 'z'.val) ||
      decide (c.val ≥ '0'.val) && decide (c.val ≤ '9'.val)) = true := h
  simp only [Bool.or_eq_true, Bool.and_eq_true, decide_eq_true_eq, UInt32.le_iff_toNat_le, ge_iff_le] at hranges
  have hchar : c.toNat = c.val.toNat := rfl
  have hZ : 'Z'.val.toNat = 90 := rfl
  have hz : 'z'.val.toNat = 122 := rfl
  have h9 : '9'.val.toNat = 57 := rfl
  omega

/-- A letter goes into a macro in upper case and a digit as it is. -/
theorem isAlphanum_toUpper (h : c.isAlphanum = true) : c.toUpper.isAlphanum = true ∧ c.toUpper.isDigit = c.isDigit := by
  have htable : ∀ n < 0x80, (Char.ofNat n).isAlphanum = true →
      (Char.ofNat n).toUpper.isAlphanum = true ∧ (Char.ofNat n).toUpper.isDigit = (Char.ofNat n).isDigit := by decide +kernel
  have hc := htable c.toNat (toNat_lt_of_isAlphanum h)
  rw [Char.ofNat_toNat] at hc
  exact hc h

theorem isMacroChar_macroChar (c : Char) : isMacroChar (macroChar c) = true := by
  unfold macroChar isMacroChar
  split
  · next h => rw [(isAlphanum_toUpper h).1, Bool.true_or]
  · rfl

theorem isDigit_macroChar (c : Char) : (macroChar c).isDigit = c.isDigit := by
  unfold macroChar
  split
  · next h => exact (isAlphanum_toUpper h).2
  · next h =>
    have hdigit : ¬ c.isDigit = true := fun hd => h (by simp [Char.isAlphanum, hd])
    simpa using hdigit

theorem isBlankChar_of_isMacroChar (h : isMacroChar c = true) : isBlankChar c = false := by
  have htable : ∀ n < 0x80, (Char.ofNat n).isAlphanum = true → isBlankChar (Char.ofNat n) = false := by decide +kernel
  rw [isMacroChar, Bool.or_eq_true, beq_iff_eq] at h
  rcases h with h | rfl
  · have hc := htable c.toNat (toNat_lt_of_isAlphanum h)
    rw [Char.ofNat_toNat] at hc
    exact hc h
  · decide

/-! ## The usual pattern -/

theorem nameOf_of_isStem (hb : IsBaseName file base) (hs : IsStem base name) (pattern : Text) :
    nameOf file pattern = pattern.replaceFirst placeholder (name.map macroChar) := by
  rw [nameOf, hb.baseName_eq, hs.stem_eq]

theorem replaceFirst_usualPattern (t : Text) : usualPattern.replaceFirst placeholder t = t ++ "_H".toList := by
  have hcut : usualPattern.cut? placeholder = some ([], "_H".toList) := by decide
  rw [replaceFirst, hcut]
  rfl

/-- The macro of a name, with the end that the usual pattern gives it. -/
theorem all_isMacroChar (name : Text) : (name.map macroChar ++ "_H".toList).all isMacroChar = true := by
  have hend : "_H".toList.all isMacroChar = true := by decide
  rw [List.all_append, hend, Bool.and_true, List.all_map, List.all_eq_true]
  exact fun c _ => isMacroChar_macroChar c

/-- The macro begins with a digit when the name does. -/
theorem head?_any_isDigit (hne : name ≠ []) :
    (name.map macroChar ++ "_H".toList).head?.any Char.isDigit = name.head?.any Char.isDigit := by
  obtain ⟨c, rest, rfl⟩ := List.exists_cons_of_ne_nil hne
  exact isDigit_macroChar c

/-- **The macro of a file** depends on the stem of its base name only. It has only letters, digits and
underscores, and it is the name of a macro exactly when the base name does not begin with a digit. -/
theorem isMacroName_nameOf_iff (hb : IsBaseName file base) (hne : base ≠ []) :
    ∃ name, IsStem base name ∧ (nameOf file usualPattern).all isMacroChar = true ∧
      (IsMacroName (nameOf file usualPattern) ↔ base.head?.any Char.isDigit = false) ∧
      ∀ file' base', IsBaseName file' base' → IsStem base' name → ∀ pattern, nameOf file' pattern = nameOf file pattern := by
  have hs := isStem_stem base
  have hname : nameOf file usualPattern = (stem base).map macroChar ++ "_H".toList := by
    rw [nameOf_of_isStem hb hs, replaceFirst_usualPattern]
  refine ⟨stem base, hs, ?_, ?_, fun file' base' hb' hs' pattern => ?_⟩
  · rw [hname]
    exact all_isMacroChar (stem base)
  · rw [hname, ← hs.head?_eq, ← head?_any_isDigit (hs.ne_nil hne)]
    exact ⟨fun h => h.head, fun h => ⟨by simp, all_isMacroChar (stem base), h⟩⟩
  · rw [nameOf_of_isStem hb' hs', nameOf_of_isStem hb hs]

/-- Both separators, two dots and letters of another script. -/
theorem isMacroName_nameOf_iff_dotted :
    IsBaseName "C:\\src/été.v2.h" "été.v2.h" ∧ ("été.v2.h" : Text) ≠ [] ∧
      IsMacroName (nameOf "C:\\src/été.v2.h" usualPattern) ∧
      nameOf "inc\\été.v2.hpp" usualPattern = nameOf "C:\\src/été.v2.h" usualPattern := by
  have hb : IsBaseName "C:\\src/été.v2.h" "été.v2.h" := ⟨by decide, "C:\\src/", rfl, by decide⟩
  have hb' : IsBaseName "inc\\été.v2.hpp" "été.v2.hpp" := ⟨by decide, "inc\\", rfl, by decide⟩
  have hne : ("été.v2.h" : Text) ≠ [] := by decide
  obtain ⟨name, hs, -, hlegal, hsame⟩ := isMacroName_nameOf_iff hb hne
  obtain rfl : ("été.v2" : Text) = name := hs.stem_eq
  have hdot : '.' ∉ "hpp".toList := by decide
  have hs' : IsStem "été.v2.hpp" "été.v2" := .extension (by decide) hdot rfl
  exact ⟨hb, hne, hlegal.2 (by decide), hsame _ _ hb' hs' usualPattern⟩

/-- A file whose name begins with a digit has a macro that no directive can define. -/
theorem not_isMacroName_nameOf_digit :
    ¬ ∀ file base : Text, IsBaseName file base → base ≠ [] → IsMacroName (nameOf file usualPattern) := by
  intro h
  have hlegal := h "2d.hpp" "2d.hpp" ⟨by decide, [], rfl, rfl⟩ (by decide)
  exact absurd hlegal.head (by decide)

end Classwright.HeaderGuard
