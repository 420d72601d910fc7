import Mathlib.Tactic.Common
import Classwright.Generated.Function
import Classwright.Proofs.Text.Lines
/-!
# Lines of generated functions

Lines that are moved behind an indentation begin with it (`indentLines_wholeLines`). Upper-casing the first
character of a name never breaks a line (`newline_notMem_upperFirst`).
-/
namespace Classwright

/-- Only a line feed has a line feed as its upper-case form. -/
theorem newline_notMem_upperChar {c : Char} (h : c ≠ '\n') : '\n' ∉ upperChar c := by
  have hofNat : ∀ n : Nat, 10 < n → Char.ofNat n ≠ '\n' := by
    intro n hn he
    have hval := congrArg Char.toNat he
    by_cases hv : n.isValidChar
    · rw [Char.ofNat, dif_pos hv] at hval
      exact absurd (show n = 10 from hval) (by omega)
    · rw [Char.ofNat, dif_neg hv] at hval
      exact absurd hval (by decide)
  have hruns : ∀ r ∈ upperRuns, 10 < r.target := by decide +kernel
  have hexpansions : ∀ e ∈ upperExpansions, ∀ n ∈ e.2, 10 < n := by decide +kernel
  unfold upperChar
  split
  · next hascii =>
    have htable : ∀ n < 0x80, n ≠ 10 → (Char.ofNat n).toUpper ≠ '\n' := by decide +kernel
    have hupper := htable c.toNat hascii fun hn => h (Char.toNat_inj.1 (hn.trans (by decide)))
    rw [Char.ofNat_toNat] at hupper
    simpa using hupper.symm
  · cases hrun : upperRuns.findSome? (·.map? c.toNat) with
    | some n =>
      obtain ⟨r, hr, hmap⟩ := List.exists_of_findSome?_eq_some hrun
      have hn : 10 < n := by
        unfold CaseRun.map? at hmap
        split at hmap
        · have := hruns r hr
          have := Option.some.inj hmap
          omega
        · cases hmap
      simpa using (hofNat n hn).symm
    | none =>
      cases hlookup : upperExpansions.lookup c.toNat with
      | some ns =>
        obtain ⟨before, after, he, -⟩ := List.lookup_eq_some_iff.1 hlookup
        intro hm
        obtain ⟨n, hn, hc⟩ := List.mem_map.1 hm
        exact hofNat n (hexpansions (c.toNat, ns) (by simp [he]) n hn) hc
      | none => simpa using h.symm

namespace Text

variable {t line : Text}

theorem newline_notMem_upperFirst (h : '\n' ∉ t) : '\n' ∉ t.upperFirst := by
  cases t with
  | nil => exact h
  | cons c rest =>
    simp only [List.mem_cons, not_or] at h
    rw [upperFirst, List.mem_append, not_or]
    exact ⟨newline_notMem_upperChar (Ne.symm h.1), h.2⟩

/-- **Whole lines**, none of them blank, are all moved behind an indentation. -/
theorem indentLines_wholeLines {ls : List Text} (hn : ∀ l ∈ ls, '\n' ∉ l) (hb : ∀ l ∈ ls, l.isBlank = false)
    (indent : Text) : (wholeLines ls).indentLines indent = wholeLines (ls.map (indent ++ ·)) := by
  have hmap : ls.map (·.indentLine indent) = ls.map (indent ++ ·) :=
    List.map_congr_left fun l hl => by rw [indentLine, hb l hl]; rfl
  rw [indentLines, pieces_wholeLines hn, List.map_append, hmap]
  exact (joinWith_append_cons _ [] []).trans (List.append_nil _)

/-- A line that is not blank is moved behind an indentation. -/
theorem indentLines_line (hn : '\n' ∉ line) (hb : line.isBlank = false) (indent : Text) :
    (line ++ ['\n']).indentLines indent = indent ++ line ++ ['\n'] := by
  have hlines : ∀ l ∈ [line], '\n' ∉ l ∧ l.isBlank = false := by simp [hn, hb]
  have hline := indentLines_wholeLines (fun l hl => (hlines l hl).1) (fun l hl => (hlines l hl).2) indent
  simpa [wholeLines] using hline

end Text

/-- A declaration on one line is indented as a whole. -/
theorem FunctionParts.indented_render_inSource {p : FunctionParts} (hn : '\n' ∉ p.head) (indent : Text) :
    (p.render .inSource).indented indent = ⟨indent ++ (p.head ++ ";") ++ "\n", withBody p.qualifiedHead p.body⟩ := by
  have hline : '\n' ∉ p.head ++ [';'] := by simp [hn]
  have hblank : Text.isBlank (p.head ++ [';']) = false := by
    rw [Text.isBlank, List.all_append, Bool.and_eq_false_iff]
    exact Or.inr (by decide)
  have hsplit : p.head ++ ";\n".toList = (p.head ++ [';']) ++ ['\n'] := by simp
  rw [render, GeneratedFunction.indented, hsplit, Text.indentLines_line hline hblank]
  rfl

end Classwright
