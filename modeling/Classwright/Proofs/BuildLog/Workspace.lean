import Classwright.Proofs.BuildLog.Collapse
import Classwright.Proofs.Path.Below
import Classwright.Proofs.Path.LastName
/-!
# Paths that stay in the workspace

A relative path of the build is cut behind its last `./`, so no step up is left in it and it leads to a
place below the root of the workspace (`isBelow_resolve_iff`). It leads elsewhere when what is left is an
absolute path, which takes a dot in front of two slashes.
-/
namespace Classwright

namespace Text

variable {t w : Text} {c x y : Char}

/-- Where a `.` between separators is taken out, nothing new of three characters begins with a dot. -/
theorem isInfix_of_replaceFirst (h : ['.', x, y] <:+: t.replaceFirst [c, '.', c] [c]) : ['.', x, y] <:+: t := by
  rcases replaceFirst_cases t c ['.', c] with ⟨-, heq⟩ | ⟨a, b, rfl, heq⟩
  · rwa [heq] at h
  rw [heq, List.infix_append_iff] at h
  rcases h with h | h | ⟨u, v, hw, hu, hv⟩
  · exact h.trans (List.prefix_append ..).isInfix
  · exact h.trans ⟨a ++ [c, '.'], [], by simp⟩
  · rcases List.prefix_cons_iff.1 hv with rfl | ⟨v, rfl, hvb⟩
    · rw [List.append_nil] at hw
      exact (hw ▸ hu).isInfix.trans (List.prefix_append ..).isInfix
    · -- it goes over the separator that stays: the dot that was taken out stands in front of one, too
      match u with
      | [] =>
        rw [hw]
        exact hv.isInfix.trans ⟨a ++ [c, '.'], [], by simp⟩
      | [d] =>
        obtain ⟨rfl, -⟩ := List.cons.inj hw
        obtain ⟨more, rfl⟩ := hvb
        rw [hw]
        exact ⟨a ++ [c], more, by simp⟩
      | [d, e] =>
        obtain ⟨rest, rfl⟩ := hu
        simp only [List.cons_append, List.nil_append, List.cons.injEq] at hw
        obtain ⟨rfl, rfl, rfl, -⟩ := hw
        exact ⟨rest, ['.', y] ++ b, by simp⟩
      | d :: e :: f :: u => simp at hw

/-- Nor does an end of the text, when it has the separator only as its first character or behind a dot. -/
theorem isSuffix_of_replaceFirst (hw : c ∉ w.tail ∨ ∃ v, w = '.' :: c :: v ∧ c ∉ v) (h : w <:+ t.replaceFirst [c, '.', c] [c]) :
    w <:+ t := by
  rcases replaceFirst_cases t c ['.', c] with ⟨-, heq⟩ | ⟨a, b, rfl, heq⟩
  · rwa [heq] at h
  rw [heq] at h
  rcases List.suffix_or_suffix_of_suffix h (List.suffix_append a (c :: b)) with h | ⟨u, rfl⟩
  · exact h.trans ⟨a ++ [c, '.'], by simp⟩
  · match u with
    | [] => exact ⟨a ++ [c, '.'], by simp⟩
    | [d] =>
      rcases hw with hw | ⟨v, hv, -⟩
      · exact absurd (by simp) hw
      · obtain ⟨rfl, -⟩ := List.cons.inj hv
        exact ⟨a ++ [c], by simp⟩
    | d :: e :: u =>
      rcases hw with hw | ⟨v, hv, hw⟩
      · exact absurd (by simp) hw
      · simp only [List.cons_append, List.cons.injEq] at hv
        exact absurd (hv.2.2 ▸ by simp) hw

end Text

namespace Path

variable {p : Path} {front : List FileName}

/-- A path with a step up at its end has no last name. -/
theorem fileName?_of_dotDot (hp : p.pieces = front ++ [dotDot]) : p.fileName? = none := by
  have hback : p.backwards = dotDot :: front.reverse := by
    rw [backwards, hp, List.reverse_append, List.reverse_singleton, List.singleton_append, skipSilent,
      if_neg (by simp [dotDot, dot])]
  rw [fileName?, hback]
  rfl

theorem fileName?_ofText_append_dotDot (t : Text) : (ofText (t ++ "/..")).fileName? = none := by
  have hunits : (ofText (t ++ "/..")).units = t.toUnits ++ slash :: dotDot := Text.toUnits_append_slash t ".."
  have hsplit : splitSlashes (ofText (t ++ "/..")).units = splitSlashes t.toUnits ++ [dotDot] := by
    rw [hunits, splitSlashes_append_slash]
    rfl
  obtain ⟨front, hp⟩ : ∃ front, (ofText (t ++ "/..")).pieces = front ++ [dotDot] := by
    rw [pieces_eq_splitSlashes_tail, hsplit]
    split
    · exact ⟨_, List.tail_append_of_ne_nil (splitSlashes_ne_nil _)⟩
    · exact ⟨_, rfl⟩
  exact fileName?_of_dotDot hp

end Path

namespace Location

open Text

variable {raw path : Text} {root : Path}

/-! ## What is put behind the root -/

/-- What is left of a raw path to be put behind the root of the workspace. An absolute path is left whole. -/
def workspacePart (raw : Text) : Text :=
  if raw.trim.startsWith "/" then collapseCurrent raw.trim else inWorkspace (collapseCurrent raw.trim)

/-- An absolute path stays what it is behind the root. -/
theorem resolve_eq_join (hdrive : hasDrive raw.trim = false) (root : Path) :
    resolve raw root = (root.join (.ofText (workspacePart raw))).normalize := by
  rw [resolve_eq, workspacePart]
  split
  · next h =>
    rw [locate_of_root (by rw [startsWith_collapseCurrent, h]), Path.join, if_pos]
    rw [isAbsolute_ofText, startsWith_collapseCurrent, h]
  · next h =>
    exact locate_of_relative (by rw [startsWith_collapseCurrent]; simpa using h) (by rw [hasDrive_collapseCurrent, hdrive]) root

theorem inWorkspace_cases (path : Text) : inWorkspace path = path ∨
    (∃ front, path = front ++ ("./" ++ inWorkspace path)) ∨ ∃ front, path = front ++ (".\\" ++ inWorkspace path) := by
  unfold inWorkspace
  cases hslash : path.cutLast? "./" with
  | some cut => exact Or.inr (Or.inl ⟨cut.1, by simpa using eq_of_cutLast? hslash⟩)
  | none =>
    cases hback : path.cutLast? ".\\" with
    | some cut => exact Or.inr (Or.inr ⟨cut.1, by simpa using eq_of_cutLast? hback⟩)
    | none => exact Or.inl rfl

/-- No dot stands in front of a slash in what is behind the last one that does. -/
theorem not_isInfix_inWorkspace (path : Text) : ¬ "./".toList <:+: inWorkspace path := by
  unfold inWorkspace
  cases hslash : path.cutLast? "./" with
  | some cut =>
    obtain ⟨-, hlast⟩ := (cutLast?_eq_some_iff (by decide)).1 hslash
    exact fun h => hlast (h.trans (List.suffix_append ..).isInfix)
  | none =>
    have hnone := cutLast?_eq_none_iff.1 hslash
    cases hback : path.cutLast? ".\\" with
    | some cut =>
      have hpath := eq_of_cutLast? hback
      exact fun h => hnone (h.trans ⟨cut.1 ++ ".\\", [], by simpa using hpath.symm⟩)
    | none => exact hnone

theorem not_isInfix_workspacePart (h : (workspacePart raw).startsWith "/" = false) : ¬ "./".toList <:+: workspacePart raw := by
  unfold workspacePart at h ⊢
  split at h
  · next hraw =>
    rw [startsWith_collapseCurrent, hraw] at h
    cases h
  · next hraw =>
    rw [if_neg hraw]
    exact not_isInfix_inWorkspace _

/-- What is left of a relative path is absolute only behind a dot with two separators. -/
theorem isInfix_of_startsWith_workspacePart (hraw : raw.trim.startsWith "/" = false)
    (h : (workspacePart raw).startsWith "/" = true) :
    ['.', '/', '/'] <:+: raw.trim ∨ ['.', '\\', '/'] <:+: raw.trim := by
  have hcollapse : ∀ {x y : Char}, ['.', x, y] <:+: collapseCurrent raw.trim → ['.', x, y] <:+: raw.trim := fun hi =>
    isInfix_of_replaceFirst (isInfix_of_replaceFirst (collapseCurrent_eq _ ▸ hi))
  rw [workspacePart, hraw, if_neg Bool.false_ne_true] at h
  obtain ⟨rest, hrest⟩ := startsWith_iff.1 h
  rcases inWorkspace_cases (collapseCurrent raw.trim) with hsame | ⟨front, hfront⟩ | ⟨front, hfront⟩
  · rw [hsame, startsWith_collapseCurrent, hraw] at h
    cases h
  · rw [← hrest] at hfront
    exact Or.inl (hcollapse ⟨front, rest, by rw [hfront]; simp⟩)
  · rw [← hrest] at hfront
    exact Or.inr (hcollapse ⟨front, rest, by rw [hfront]; simp⟩)

/-- A step up alone is left only of a path that ends in it. -/
theorem isSuffix_of_workspacePart_eq (hname : (Path.ofText raw.trim).fileName?.isSome = true) (h : workspacePart raw = "..") :
    ".\\..".toList <:+ raw.trim := by
  have hraw : ¬ raw.trim.startsWith "/" = true := by
    intro hraw
    have hstart := startsWith_collapseCurrent raw.trim
    rw [workspacePart, if_pos hraw] at h
    rw [h, hraw] at hstart
    cases hstart
  rw [workspacePart, if_neg hraw] at h
  rcases inWorkspace_cases (collapseCurrent raw.trim) with hsame | ⟨front, hfront⟩ | ⟨front, hfront⟩
  · -- nothing was taken out of the path, for it has no separators
    rw [h] at hsame
    have hplain : raw.trim = ".." := by
      rw [collapseCurrent_eq] at hsame
      rcases replaceFirst_cases (raw.trim.replaceFirst ['/', '.', '/'] ['/']) '\\' ['.', '\\'] with ⟨-, heq⟩ | ⟨a, b, -, heq⟩
      · rw [heq] at hsame
        rcases replaceFirst_cases raw.trim '/' ['.', '/'] with ⟨-, heq⟩ | ⟨a, b, -, heq⟩
        · exact (hsame.trans heq).symm
        · rw [heq] at hsame
          exact absurd (hsame ▸ List.mem_append_right a (List.mem_cons_self ..) : '/' ∈ "..".toList) (by decide)
      · rw [heq] at hsame
        exact absurd (hsame ▸ List.mem_append_right a (List.mem_cons_self ..) : '\\' ∈ "..".toList) (by decide)
    rw [hplain] at hname
    exact absurd hname (by decide)
  · rw [h] at hfront
    have hend : ['/', '.', '.'] <:+ collapseCurrent raw.trim := ⟨front ++ ['.'], by rw [hfront]; simp⟩
    rw [collapseCurrent_eq] at hend
    obtain ⟨t, ht⟩ := isSuffix_of_replaceFirst (Or.inl (by decide)) (isSuffix_of_replaceFirst (Or.inl (by decide)) hend)
    have ht : t ++ "/.." = raw.trim := ht
    rw [← ht, Path.fileName?_ofText_append_dotDot] at hname
    cases hname
  · rw [h] at hfront
    have hend : ['.', '\\', '.', '.'] <:+ collapseCurrent raw.trim := ⟨front, by rw [hfront]; simp⟩
    rw [collapseCurrent_eq] at hend
    exact isSuffix_of_replaceFirst (Or.inl (by decide)) (isSuffix_of_replaceFirst (Or.inr ⟨_, rfl, by decide⟩) hend)

/-! ## Below the root -/

/-- Where a path of the build leads below the root. -/
theorem isBelow_resolve (hroot : root.isAbsolute = true) (hnormal : root.normalize.components = root.components) (raw : Text) :
    (resolve raw root).IsBelow root ↔ hasDrive raw.trim = false ∧
      ((workspacePart raw).startsWith "/" = true → (Path.ofText (workspacePart raw)).normalize.IsBelow root) ∧
      (workspacePart raw = ".." → ∀ n, root.components.getLast? ≠ some (.name n)) := by
  cases hdrive : hasDrive raw.trim with
  | true =>
    refine iff_of_false (fun h => not_isAbsolute_resolve hdrive root (h.isAbsolute hroot)) ?_
    rintro ⟨h, -⟩
    cases h
  | false =>
    rw [resolve_eq_join hdrive]
    cases hstart : (workspacePart raw).startsWith "/" with
    | true =>
      have hne : workspacePart raw ≠ ".." := by
        intro h
        rw [h] at hstart
        cases hstart
      rw [Path.join, if_pos (by rw [isAbsolute_ofText, hstart])]
      exact ⟨fun h => ⟨rfl, fun _ => h, fun hup => absurd hup hne⟩, fun h => h.2.1 rfl⟩
    | false =>
      have hslash : ¬ Path.dot ++ [Path.slash] <:+: (Path.ofText (workspacePart raw)).units := by
        intro hi
        obtain ⟨w, hw, heq⟩ := List.infix_map_iff.1 hi
        obtain rfl : w = "./" := toUnits_injective heq.symm
        exact not_isInfix_workspacePart hstart hw
      have hup : (Path.ofText (workspacePart raw)).units = Path.dotDot ↔ workspacePart raw = ".." :=
        ⟨fun h => toUnits_injective h, fun h => congrArg toUnits h⟩
      rw [Path.isBelow_normalize_join_iff hroot hnormal (by rw [isAbsolute_ofText, hstart]; decide) hslash, hup]
      exact ⟨fun h => ⟨rfl, fun habsolute => absurd habsolute Bool.false_ne_true, h⟩, fun h => h.2.2⟩

/-- **Where a path of the build leads.** Behind a root that is a normal form every path leads below the
root, unless it is one of a drive, or what is put behind the root is an absolute path that leads elsewhere,
or a step up alone out of a directory. So a relative path that ends in a name leads below the root when no
dot stands in front of two separators in it, and none in front of a backslash and a step up at its end. -/
theorem isBelow_resolve_iff (hroot : root.isAbsolute = true) (hnormal : root.normalize.components = root.components)
    (raw : Text) :
    ((resolve raw root).IsBelow root ↔ hasDrive raw.trim = false ∧
      ((workspacePart raw).startsWith "/" = true → (Path.ofText (workspacePart raw)).normalize.IsBelow root) ∧
      (workspacePart raw = ".." → ∀ n, root.components.getLast? ≠ some (.name n))) ∧
    (raw.trim.startsWith "/" = false → hasDrive raw.trim = false → (Path.ofText raw.trim).fileName?.isSome = true →
      ¬ ".//".toList <:+: raw.trim → ¬ ".\\/".toList <:+: raw.trim → ¬ ".\\..".toList <:+ raw.trim →
      (resolve raw root).IsBelow root) := by
  refine ⟨isBelow_resolve hroot hnormal raw, fun hslash hdrive hname hdouble hback hup => ?_⟩
  rw [isBelow_resolve hroot hnormal raw]
  refine ⟨hdrive, fun habsolute => ?_, fun hpart => absurd (isSuffix_of_workspacePart_eq hname hpart) hup⟩
  rcases isInfix_of_startsWith_workspacePart hslash habsolute with h | h
  · exact absurd h hdouble
  · exact absurd h hback

/-- From a build directory the path leads through several others, to a name with blanks behind it. -/
theorem isBelow_resolve_iff_blanks :
    (Path.ofText "/work/app").isAbsolute = true ∧
    (Path.ofText "/work/app").normalize.components = (Path.ofText "/work/app").components ∧
    (resolve " ../lib//../src/./ü .c " (.ofText "/work/app")).IsBelow (.ofText "/work/app") ∧
    ¬ (resolve "..//src/a.c" (.ofText "/work/app")).IsBelow (.ofText "/work/app") := by
  have habsolute : (Path.ofText "/work/app").isAbsolute = true := by decide
  have hnormal : (Path.ofText "/work/app").normalize.components = (Path.ofText "/work/app").components := by decide
  refine ⟨habsolute, hnormal, ?_, ?_⟩
  · exact (isBelow_resolve_iff habsolute hnormal _).2 (by decide) (by decide) (by decide) (by decide) (by decide) (by decide)
  · rw [(isBelow_resolve_iff habsolute hnormal _).1]
    rintro ⟨-, h, -⟩
    exact absurd (h (by decide)) (by decide)

/-- Two slashes behind the last dot lead out of the workspace. -/
theorem not_isBelow_resolve_doubled : ¬ ∀ (root : Path) (raw : Text), root.isAbsolute = true → root.normalize = root →
    raw.startsWith "/" = false → hasDrive raw = false → (Path.ofText raw).fileName?.isSome = true →
      (resolve raw root).IsBelow root := by
  intro h
  exact absurd (h (.ofText "/work/app") "..//src/a.c" (by decide) (by decide) (by decide) (by decide) (by decide)) (by decide)

end Location
end Classwright
