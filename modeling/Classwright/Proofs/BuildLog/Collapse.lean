import Mathlib.Tactic.Common
import Classwright.Proofs.BuildLog.Location
import Classwright.Proofs.Path.Normal
import Classwright.Proofs.Text.Trim
/-!
# Collapsing paths

The first `/./` of a path and its first `\.\` are taken out. What looks like a place in the text was there
before (`has_of_collapseCurrent`). A path that is collapsed beforehand is collapsed twice when it is
resolved (`resolve_collapseCurrent`), which changes where it leads only when the path is not settled
(`locate_of_settled`).
-/
namespace Classwright

namespace Text

variable {m a b t : Text} {c : Char}

/-! ## Replacing the first occurrence -/

/-- A search finds nothing that ends behind the last character like the one that its marker ends with. -/
theorem cut?_append_of_notMem (h : c ∉ b) (a : Text) :
    cut? (a ++ b) (m ++ [c]) = (cut? a (m ++ [c])).map fun (before, after) => (before, after ++ b) := by
  induction a with
  | nil =>
    have hb : cut? b (m ++ [c]) = none := cut?_eq_none_iff.2 fun hi => h (hi.subset (by simp))
    have hnil : cut? [] (m ++ [c]) = none := cut?_eq_none_iff.2 fun hi => by simpa using List.infix_nil.1 hi
    rw [List.nil_append, hb, hnil]
    rfl
  | cons d a ih =>
    rw [List.cons_append, cut?, cut?]
    cases hstrip : stripStart? (d :: a) (m ++ [c]) with
    | some rest =>
      have hlonger : stripStart? (d :: (a ++ b)) (m ++ [c]) = some (rest ++ b) := by
        rw [stripStart?_eq_some_iff, ← List.cons_append, stripStart?_eq_some_iff.1 hstrip, List.append_assoc]
      rw [hlonger]
      rfl
    | none =>
      have hlonger : stripStart? (d :: (a ++ b)) (m ++ [c]) = none := by
        rw [stripStart?_eq_none_iff, ← List.cons_append]
        intro hp
        rcases List.prefix_or_prefix_of_prefix hp (List.prefix_append (d :: a) b) with hm | ⟨more, hmore⟩
        · exact stripStart?_eq_none_iff.1 hstrip hm
        · rw [← hmore, List.prefix_append_right_inj] at hp
          rcases List.eq_nil_or_concat more with rfl | ⟨front, last, rfl⟩
          · rw [List.append_nil] at hmore
            exact stripStart?_eq_none_iff.1 hstrip (hmore ▸ List.prefix_rfl)
          · rw [List.concat_eq_append, ← List.append_assoc] at hmore
            obtain ⟨-, hlast⟩ := List.append_inj' hmore rfl
            obtain rfl : last = c := by simpa using hlast
            exact h (hp.subset (by simp))
      rw [hlonger]
      simp only [ih, Option.map_map]
      rfl

theorem replaceFirst_append_of_notMem (h : c ∉ b) (a r : Text) :
    replaceFirst (a ++ b) (m ++ [c]) r = replaceFirst a (m ++ [c]) r ++ b := by
  rw [replaceFirst, replaceFirst, cut?_append_of_notMem h]
  cases cut? a (m ++ [c]) with
  | none => rfl
  | some found => simp

theorem replaceFirst_cons_of_notMem (hc : c ∉ m) (hm : m ≠ []) (t r : Text) :
    replaceFirst (c :: t) m r = c :: replaceFirst t m r := by
  have hcut := cut?_append_cons (a := []) hc (by simpa using hm) t
  rw [List.nil_append] at hcut
  rw [replaceFirst, replaceFirst, hcut]
  cases cut? t m with
  | none => rfl
  | some found => simp

/-- What is replaced by its first character: nothing, or one occurrence. -/
theorem replaceFirst_cases (t : Text) (c : Char) (m : Text) :
    (¬ c :: m <:+: t ∧ replaceFirst t (c :: m) [c] = t) ∨
      ∃ a b, t = a ++ c :: (m ++ b) ∧ replaceFirst t (c :: m) [c] = a ++ c :: b := by
  unfold replaceFirst
  cases hcut : cut? t (c :: m) with
  | none => exact Or.inl ⟨cut?_eq_none_iff.1 hcut, rfl⟩
  | some found =>
    obtain ⟨a, b⟩ := found
    refine Or.inr ⟨a, b, ?_, by simp⟩
    rw [eq_of_cut? hcut]
    simp

end Text

namespace Location

open Text

variable {t p : Text} {mark : Text → Prop} {c : Char}

theorem has_of_replaceFirst {m : Text} (h : ∀ w, mark w → c ∉ w) (hhas : Has mark (t.replaceFirst (c :: m) [c])) : Has mark t := by
  rcases replaceFirst_cases t c m with ⟨-, heq⟩ | ⟨a, b, rfl, heq⟩
  · rwa [heq] at hhas
  · rw [heq, has_append_cons_iff h] at hhas
    rw [has_append_cons_iff h]
    exact hhas.imp_right fun hb => hb.mono (List.suffix_append ..).isInfix

theorem mem_of_mem_replaceFirst {m : Text} {x : Char} (h : x ∈ t.replaceFirst (c :: m) [c]) : x ∈ t := by
  rcases replaceFirst_cases t c m with ⟨-, heq⟩ | ⟨a, b, rfl, heq⟩
  · rwa [heq] at h
  · rw [heq] at h
    simp only [List.mem_append, List.mem_cons] at h ⊢
    tauto

/-! ## Condensing a location -/

/-- `/./` and `\.\` end with the character that they are replaced by. -/
theorem collapseCurrent_eq (t : Text) :
    collapseCurrent t = (t.replaceFirst ['/', '.', '/'] ['/']).replaceFirst ['\\', '.', '\\'] ['\\'] := rfl

theorem collapseCurrent_append (h : '/' ∉ p) (h' : '\\' ∉ p) (t : Text) : collapseCurrent (t ++ p) = collapseCurrent t ++ p := by
  have hslash := replaceFirst_append_of_notMem (m := ['/', '.']) h t ['/']
  have hbackslash := replaceFirst_append_of_notMem (m := ['\\', '.']) h' (t.replaceFirst ['/', '.', '/'] ['/']) ['\\']
  simp only [List.cons_append, List.nil_append] at hslash hbackslash
  rw [collapseCurrent_eq, hslash, hbackslash, collapseCurrent_eq]

theorem has_of_collapseCurrent (h : ∀ w, mark w → '/' ∉ w ∧ '\\' ∉ w) (hhas : Has mark (collapseCurrent t)) : Has mark t :=
  has_of_replaceFirst (fun w hw => (h w hw).1) (has_of_replaceFirst (fun w hw => (h w hw).2) hhas)

theorem mem_of_mem_collapseCurrent (h : c ∈ collapseCurrent t) : c ∈ t := mem_of_mem_replaceFirst (mem_of_mem_replaceFirst h)

/-! ## White space around a path -/

theorem tightStart_replaceFirst {m : Text} (hc : isBlankChar c = false) (h : TightStart t) :
    TightStart (t.replaceFirst (c :: m) [c]) := by
  rcases replaceFirst_cases t c m with ⟨-, heq⟩ | ⟨a, b, rfl, heq⟩
  · rwa [heq]
  · rw [heq]
    cases a with
    | nil => exact ⟨c, b, rfl, hc⟩
    | cons x a =>
      obtain ⟨y, rest, hy, hblank⟩ := h
      obtain ⟨rfl, -⟩ := List.cons.inj hy
      exact ⟨x, a ++ c :: b, rfl, hblank⟩

theorem tightEnd_replaceFirst {m : Text} (hc : isBlankChar c = false) (h : TightEnd t) :
    TightEnd (t.replaceFirst (c :: m) [c]) := by
  rcases replaceFirst_cases t c m with ⟨-, heq⟩ | ⟨a, b, rfl, heq⟩
  · rwa [heq]
  · rw [heq]
    rcases List.eq_nil_or_concat b with rfl | ⟨front, x, rfl⟩
    · exact ⟨a, c, rfl, hc⟩
    · obtain ⟨front', y, hy, hblank⟩ := h
      have hxy : (a ++ c :: (m ++ front)) ++ [x] = front' ++ [y] := by simpa using hy
      obtain ⟨-, hlast⟩ := List.append_inj' hxy rfl
      obtain rfl : x = y := by simpa using hlast
      exact ⟨a ++ c :: front, x, by simp, hblank⟩

theorem collapseCurrent_cons_of_blank (hc : isBlankChar c = true) (t : Text) : collapseCurrent (c :: t) = c :: collapseCurrent t := by
  have hnot : ∀ x, isBlankChar x = false → c ≠ x := by
    rintro x hx rfl
    rw [hc] at hx
    cases hx
  have hslash := hnot '/' (by decide)
  have hdot := hnot '.' (by decide)
  have hbackslash := hnot '\\' (by decide)
  rw [collapseCurrent_eq, replaceFirst_cons_of_notMem (by simp [hslash, hdot]) (by simp),
    replaceFirst_cons_of_notMem (by simp [hbackslash, hdot]) (by simp), collapseCurrent_eq]

theorem collapseCurrent_concat_of_blank (hc : isBlankChar c = true) (t : Text) :
    collapseCurrent (t ++ [c]) = collapseCurrent t ++ [c] := by
  have hnot : ∀ x, isBlankChar x = false → x ≠ c := by
    rintro x hx rfl
    rw [hc] at hx
    cases hx
  exact collapseCurrent_append (by simpa using hnot '/' (by decide)) (by simpa using hnot '\\' (by decide)) t

/-- White space around a path is in the way of neither. -/
theorem trim_collapseCurrent (t : Text) : (collapseCurrent t).trim = collapseCurrent t.trim := by
  generalize hn : t.length = n
  induction n using Nat.strongRecOn generalizing t with
  | ind n ih =>
    rcases List.eq_nil_or_concat t with rfl | ⟨front, last, ht⟩
    · rfl
    · rw [List.concat_eq_append] at ht
      obtain ⟨first, rest, hcons⟩ := List.exists_cons_of_ne_nil (show t ≠ [] by simp [ht])
      by_cases hfirst : isBlankChar first = true
      · rw [hcons, collapseCurrent_cons_of_blank hfirst, trim_cons_of_blank hfirst, trim_cons_of_blank hfirst]
        exact ih rest.length (by rw [← hn, hcons]; simp) rest rfl
      · by_cases hlast : isBlankChar last = true
        · rw [ht, collapseCurrent_concat_of_blank hlast, trim_concat_of_blank hlast, trim_concat_of_blank hlast]
          exact ih front.length (by rw [← hn, ht]; simp) front rfl
        · have hstart : TightStart t := ⟨first, rest, hcons, by simpa using hfirst⟩
          have hend : TightEnd t := ⟨front, last, ht, by simpa using hlast⟩
          rw [trim_of_tight hstart hend, collapseCurrent_eq]
          exact trim_of_tight (tightStart_replaceFirst (by decide) (tightStart_replaceFirst (by decide) hstart))
            (tightEnd_replaceFirst (by decide) (tightEnd_replaceFirst (by decide) hend))

/-! ## Where a path leads -/

/-- Where a path leads that was trimmed and collapsed. -/
def locate (path : Text) (root : Path) : Path :=
  if path.startsWith "/" || hasDrive path then (Path.ofText path).normalize
  else (root.join (.ofText (inWorkspace path))).normalize

theorem locate_of_root {path : Text} (h : path.startsWith "/" = true) (root : Path) :
    locate path root = (Path.ofText path).normalize := by
  rw [locate, h, Bool.true_or, if_pos rfl]

theorem locate_of_relative {path : Text} (hroot : path.startsWith "/" = false) (hdrive : hasDrive path = false) (root : Path) :
    locate path root = (root.join (.ofText (inWorkspace path))).normalize := by
  rw [locate, hroot, hdrive]
  rfl

theorem resolve_eq (raw : Text) (root : Path) : resolve raw root = locate (collapseCurrent raw.trim) root := rfl

/-- A collapsed path is collapsed once more. -/
theorem resolve_collapseCurrent (raw : Text) (root : Path) :
    resolve (collapseCurrent raw) root = locate (collapseCurrent (collapseCurrent raw.trim)) root := by
  rw [resolve_eq, trim_collapseCurrent]

theorem head?_replaceFirst (t : Text) (c : Char) (m : Text) : (t.replaceFirst (c :: m) [c]).head? = t.head? := by
  rcases replaceFirst_cases t c m with ⟨-, heq⟩ | ⟨a, b, rfl, heq⟩
  · rw [heq]
  · rw [heq]
    cases a <;> rfl

theorem startsWith_slash (t : Text) : t.startsWith "/" = (t.head? == some '/') := by
  have hslash : ("/" : Text) = ['/'] := rfl
  rw [Bool.eq_iff_iff, startsWith_iff, hslash]
  cases t with
  | nil => simp
  | cons c t =>
    simp only [List.cons_prefix_cons, List.nil_prefix, and_true, List.head?_cons, beq_iff_eq, Option.some.injEq]
    exact eq_comm

theorem startsWith_collapseCurrent (t : Text) : (collapseCurrent t).startsWith "/" = t.startsWith "/" := by
  rw [startsWith_slash, startsWith_slash, collapseCurrent_eq, head?_replaceFirst, head?_replaceFirst]

theorem hasDrive_replaceFirst (hc : c.isAlpha = false) (hcolon : c ≠ ':') (t m : Text) :
    hasDrive (t.replaceFirst (c :: m) [c]) = hasDrive t := by
  have hsecond : ∀ x y r, y ≠ ':' → hasDrive (x :: y :: r) = false := by
    intro x y r hy
    unfold hasDrive
    split
    · next heq =>
      obtain ⟨-, htail⟩ := List.cons.inj heq
      exact absurd (List.cons.inj htail).1 hy
    · rfl
  have hthree : ∀ x y z r r', hasDrive (x :: y :: z :: r) = hasDrive (x :: y :: z :: r') := by
    intro x y z r r'
    by_cases hy : y = ':'
    · subst hy
      rfl
    · rw [hsecond x y _ hy, hsecond x y _ hy]
  have hfirst : ∀ r, hasDrive (c :: r) = false := by
    intro r
    unfold hasDrive
    split
    · next heq =>
      obtain ⟨rfl, -⟩ := List.cons.inj heq
      rw [hc]
      rfl
    · rfl
  rcases replaceFirst_cases t c m with ⟨-, heq⟩ | ⟨a, b, rfl, heq⟩
  · rw [heq]
  · rw [heq]
    match a with
    | [] => exact (hfirst _).trans (hfirst _).symm
    | [x] => exact (hsecond x c _ hcolon).trans (hsecond x c _ hcolon).symm
    | [x, y] => exact hthree ..
    | x :: y :: z :: a => exact hthree ..

theorem hasDrive_collapseCurrent (t : Text) : hasDrive (collapseCurrent t) = hasDrive t := by
  rw [collapseCurrent_eq, hasDrive_replaceFirst (by decide) (by decide), hasDrive_replaceFirst (by decide) (by decide)]

/-! ## Settled paths -/

/-- Collapsing a path another time does not change where it leads: there is nothing more to take out, or
what is taken out is a `.` behind the root, or the path leads nowhere, or what counts is behind it. -/
inductive Settled (path : Text) : Prop where
  | plain (same : collapseCurrent path = path)
  | absolute (root : path.startsWith "/" = true) (backslash : ¬ path.has "\\.\\" = true)
  | drive (root : path.startsWith "/" = false) (drive : hasDrive path = true)
  | relative (root : path.startsWith "/" = false) (behind : inWorkspace (collapseCurrent path) = inWorkspace path)

theorem isAbsolute_ofText (t : Text) : (Path.ofText t).isAbsolute = t.startsWith "/" := by
  rw [startsWith_slash, Bool.eq_iff_iff]
  cases t with
  | nil => simp [Path.isAbsolute, Path.ofText, Text.toUnits]
  | cons c t => simp [Path.isAbsolute, Path.ofText, Text.toUnits, Path.slash]

/-- A `.` between slashes is no component. -/
theorem components_replaceFirst (h : t.startsWith "/" = true) :
    (Path.ofText (t.replaceFirst ['/', '.', '/'] ['/'])).components = (Path.ofText t).components := by
  have habsolute : (Path.ofText t).isAbsolute = true := by rw [isAbsolute_ofText, h]
  have habsolute' : (Path.ofText (t.replaceFirst ['/', '.', '/'] ['/'])).isAbsolute = true := by
    rw [isAbsolute_ofText, startsWith_slash, head?_replaceFirst, ← startsWith_slash, h]
  rw [Path.components_eq_of_absolute habsolute, Path.components_eq_of_absolute habsolute']
  rcases replaceFirst_cases t '/' ['.', '/'] with ⟨-, heq⟩ | ⟨a, b, rfl, heq⟩
  · rw [heq]
  · rw [heq]
    have hunits : ∀ a b : Text, (Path.ofText (a ++ '/' :: b)).units = a.toUnits ++ Path.slash :: b.toUnits := toUnits_append_slash
    have hdot : Path.splitSlashes (Text.toUnits (['.', '/'] ++ b)) = Path.dot :: Path.splitSlashes (Text.toUnits b) :=
      Path.splitSlashes_append_slash Path.dot (Text.toUnits b)
    rw [hunits, hunits, Path.splitSlashes_append_slash, Path.splitSlashes_append_slash, hdot, List.filterMap_append,
      List.filterMap_append, List.filterMap_cons_none rfl]

theorem not_isAbsolute_locate {path : Text} (hroot : path.startsWith "/" = false) (hdrive : hasDrive path = true) (root : Path) :
    (locate path root).isAbsolute ≠ true := by
  intro h
  rw [locate, hdrive, Bool.or_true, if_pos rfl] at h
  have := Path.isAbsolute_of_normalize h
  rw [isAbsolute_ofText, hroot] at this
  cases this

theorem not_isAbsolute_resolve (hdrive : hasDrive raw.trim = true) (root : Path) : (resolve raw root).isAbsolute ≠ true := by
  have hroot : raw.trim.startsWith "/" = false := by
    rw [startsWith_slash]
    cases ht : raw.trim with
    | nil => rfl
    | cons c t =>
      rw [List.head?_cons, beq_eq_false_iff_ne]
      intro hc
      obtain rfl := Option.some.inj hc
      rw [ht] at hdrive
      unfold hasDrive at hdrive
      split at hdrive
      · next heq =>
        obtain ⟨rfl, -⟩ := List.cons.inj heq
        have halpha : '/'.isAlpha = false := by decide
        rw [halpha] at hdrive
        cases hdrive
      · cases hdrive
  rw [resolve_eq]
  exact not_isAbsolute_locate (by rw [startsWith_collapseCurrent, hroot]) (by rw [hasDrive_collapseCurrent, hdrive]) root

/-- **Where a path of the build leads** is absolute, unless it is a path of a drive. -/
theorem isAbsolute_resolve_iff {root : Path} (hroot : root.isAbsolute = true) (raw : Text) :
    (resolve raw root).isAbsolute = true ↔ hasDrive raw.trim = false := by
  constructor
  · intro h
    by_contra hdrive
    exact not_isAbsolute_resolve (by simpa using hdrive) root h
  · intro hdrive
    rw [resolve_eq]
    by_cases hstart : (collapseCurrent raw.trim).startsWith "/" = true
    · rw [locate_of_root hstart]
      exact (Path.components_normalize (by rw [isAbsolute_ofText, hstart])).1
    · rw [locate_of_relative (by simpa using hstart) (by rw [hasDrive_collapseCurrent, hdrive])]
      exact (Path.components_normalize (Path.isAbsolute_join hroot _)).1

/-- **Settled paths** lead to the same place when they are collapsed once more. -/
theorem locate_of_settled {path : Text} (h : Settled path) (root : Path) :
    locate (collapseCurrent path) root = locate path root ∨
      (locate (collapseCurrent path) root).isAbsolute ≠ true ∧ (locate path root).isAbsolute ≠ true := by
  cases h with
  | plain same => exact Or.inl (by rw [same])
  | absolute hroot backslash =>
    left
    -- no backslashes come together where a slash stays
    have hback : ¬ ['\\', '.', '\\'] <:+: path.replaceFirst ['/', '.', '/'] ['/'] := by
      intro hi
      have hmark : Has (· = ['\\', '.', '\\']) (path.replaceFirst ['/', '.', '/'] ['/']) := ⟨_, rfl, hi⟩
      obtain ⟨w, rfl, hi⟩ := has_of_replaceFirst (by rintro w rfl; decide) hmark
      exact backslash (has_iff.2 hi)
    have hcollapse : collapseCurrent path = path.replaceFirst ['/', '.', '/'] ['/'] := by
      rcases replaceFirst_cases (path.replaceFirst ['/', '.', '/'] ['/']) '\\' ['.', '\\'] with ⟨-, heq⟩ | ⟨a, b, heq, -⟩
      · rw [collapseCurrent_eq, heq]
      · exact absurd ⟨a, b, by rw [heq]; simp⟩ hback
    rw [locate_of_root (by rw [startsWith_collapseCurrent, hroot]), locate_of_root hroot, hcollapse, Path.normalize, Path.normalize,
      components_replaceFirst hroot]
  | drive hroot hdrive =>
    right
    exact ⟨not_isAbsolute_locate (by rw [startsWith_collapseCurrent, hroot]) (by rw [hasDrive_collapseCurrent, hdrive]) root,
      not_isAbsolute_locate hroot hdrive root⟩
  | relative hroot behind =>
    by_cases hdrive : hasDrive path = true
    · right
      exact ⟨not_isAbsolute_locate (by rw [startsWith_collapseCurrent, hroot]) (by rw [hasDrive_collapseCurrent, hdrive]) root,
        not_isAbsolute_locate hroot hdrive root⟩
    · left
      rw [Bool.not_eq_true] at hdrive
      rw [locate_of_relative (by rw [startsWith_collapseCurrent, hroot]) (by rw [hasDrive_collapseCurrent, hdrive]),
        locate_of_relative hroot hdrive, behind]

end Location
end Classwright
