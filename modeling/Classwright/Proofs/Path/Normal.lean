import Mathlib.Tactic.Common
import Mathlib.Data.List.Basic
import Classwright.Path.Basic
/-!
# Components and normal forms

What is between the slashes of a path can be put together again (`splitSlashes_joinSlashes`), and so
can the components of an absolute path (`components_ofComponents`). Where no `..` is left, two paths
with the same normal form have the same components (`components_eq_iff_alike`).
-/
namespace Classwright

open Path

/-- A component of an absolute path behind its root: a step up, or a name that can be in a directory. -/
def Component.IsStep : Component → Prop
  | .parent => True
  | .name n => n ≠ [] ∧ n ≠ dot ∧ n ≠ dotDot ∧ slash ∉ n
  | _ => False

/-! ## Texts as units -/

namespace Text

theorem toUnits_injective : Function.Injective Text.toUnits := by
  intro s t h
  have := congrArg text? h
  simpa using this

theorem toUnits_append_slash (a b : Text) : (a ++ '/' :: b).toUnits = a.toUnits ++ slash :: b.toUnits := by
  simp [Text.toUnits, slash]

theorem slash_mem_toUnits_iff {t : Text} : slash ∈ t.toUnits ↔ '/' ∈ t := by simp [Text.toUnits, slash]

end Text

namespace Path

variable {p q : Path} {c : Component} {cs : List Component} {a b : List Unit8} {piece : FileName} {ps : List FileName}

/-! ## Pieces between slashes -/

theorem splitSlashes_ne_nil (a : List Unit8) : splitSlashes a ≠ [] := by
  cases a with
  | nil => simp [splitSlashes]
  | cons u a =>
    unfold splitSlashes
    split
    · simp
    · split <;> simp

@[simp] theorem splitSlashes_slash (a : List Unit8) : splitSlashes (slash :: a) = [] :: splitSlashes a := by
  simp [splitSlashes]

/-- A unit that is no slash belongs to the first piece. -/
theorem splitSlashes_cons_of_ne {u : Unit8} (h : u ≠ slash) (a : List Unit8) :
    ∃ piece more, splitSlashes a = piece :: more ∧ splitSlashes (u :: a) = (u :: piece) :: more := by
  cases ha : splitSlashes a with
  | nil => exact absurd ha (splitSlashes_ne_nil a)
  | cons piece more => exact ⟨piece, more, rfl, by simp [splitSlashes, h, ha]⟩

theorem splitSlashes_append_slash (a b : List Unit8) : splitSlashes (a ++ slash :: b) = splitSlashes a ++ splitSlashes b := by
  induction a with
  | nil => simp [splitSlashes]
  | cons u a ih =>
    by_cases hu : u = slash
    · simp [hu, ih]
    · obtain ⟨piece, more, h1, h2⟩ := splitSlashes_cons_of_ne hu a
      obtain ⟨piece', more', h1', h2'⟩ := splitSlashes_cons_of_ne hu (a ++ slash :: b)
      rw [ih, h1] at h1'
      obtain ⟨rfl, rfl⟩ := List.cons.inj h1'
      rw [List.cons_append, h2', h2]
      rfl

theorem splitSlashes_of_notMem (h : slash ∉ a) : splitSlashes a = [a] := by
  induction a with
  | nil => rfl
  | cons u a ih =>
    simp only [List.mem_cons, not_or] at h
    simp [splitSlashes, Ne.symm h.1, ih h.2]

theorem notMem_of_mem_splitSlashes (h : piece ∈ splitSlashes a) : slash ∉ piece := by
  induction a generalizing piece with
  | nil => simp_all [splitSlashes]
  | cons u a ih =>
    by_cases hu : u = slash
    · rw [hu, splitSlashes_slash] at h
      rcases List.mem_cons.1 h with rfl | h
      · simp
      · exact ih h
    · obtain ⟨first, more, h1, h2⟩ := splitSlashes_cons_of_ne hu a
      rw [h2] at h
      rw [h1] at ih
      rcases List.mem_cons.1 h with rfl | h
      · have hfirst : slash ∉ first := ih (by simp)
        simp [hfirst, Ne.symm hu]
      · exact ih (by simp [h])

theorem joinSlashes_cons (piece : FileName) (ps : List FileName) :
    joinSlashes (piece :: ps) = piece ++ ps.flatMap (slash :: ·) := by
  induction ps generalizing piece with
  | nil => simp [joinSlashes]
  | cons q ps ih => simp [joinSlashes, ih]

/-- Pieces that are put together are found again. -/
theorem splitSlashes_joinSlashes (hne : ps ≠ []) (h : ∀ piece ∈ ps, slash ∉ piece) : splitSlashes (joinSlashes ps) = ps := by
  obtain ⟨piece, ps, rfl⟩ := List.exists_cons_of_ne_nil hne
  rw [joinSlashes_cons]
  clear hne
  induction ps generalizing piece with
  | nil => simpa using splitSlashes_of_notMem (h piece (by simp))
  | cons q ps ih =>
    rw [List.flatMap_cons, List.cons_append, splitSlashes_append_slash, splitSlashes_of_notMem (h piece (by simp)),
      ih q fun r hr => h r (by simp [List.mem_cons.1 hr])]
    rfl

/-! ## Components -/

theorem component?_eq_some_iff (h : slash ∉ piece) : component? piece = some c ↔ c.IsStep ∧ Path.piece c = piece := by
  unfold component?
  by_cases hsilent : piece = [] ∨ piece = dot
  · rw [if_pos hsilent]
    constructor
    · intro hc
      cases hc
    · rintro ⟨hstep, rfl⟩
      cases c with
      | root => exact hstep.elim
      | current => exact hstep.elim
      | parent => exact absurd hsilent (by decide)
      | name n => exact absurd hsilent (not_or.2 ⟨hstep.1, hstep.2.1⟩)
  · rw [if_neg hsilent]
    rw [not_or] at hsilent
    by_cases hup : piece = dotDot
    · subst hup
      rw [if_pos rfl]
      constructor
      · rintro ⟨⟩
        exact ⟨trivial, rfl⟩
      · rintro ⟨hstep, hpiece⟩
        cases c with
        | root => exact hstep.elim
        | current => exact hstep.elim
        | parent => rfl
        | name n => exact absurd hpiece hstep.2.2.1
    · rw [if_neg hup]
      constructor
      · rintro ⟨⟩
        exact ⟨⟨hsilent.1, hsilent.2, hup, h⟩, rfl⟩
      · rintro ⟨hstep, rfl⟩
        cases c with
        | root => exact hstep.elim
        | current => exact hstep.elim
        | parent => exact absurd rfl hup
        | name n => rfl

theorem notMem_piece (h : c.IsStep) : slash ∉ Path.piece c := by
  cases c with
  | root => exact h.elim
  | current => exact h.elim
  | parent => decide
  | name n => exact h.2.2.2

/-- Behind an absolute directory a path is absolute. -/
theorem isAbsolute_join {dir : Path} (h : dir.isAbsolute = true) (p : Path) : (dir.join p).isAbsolute = true := by
  by_cases hp : p.isAbsolute = true
  · rwa [join, if_pos hp]
  · obtain ⟨units⟩ := dir
    cases units with
    | nil => cases h
    | cons u units =>
      rw [join, if_neg hp]
      split <;> exact h

/-- The components of an absolute path are its root and steps from there. -/
theorem components_of_absolute (h : p.isAbsolute = true) :
    ∃ steps, p.components = .root :: steps ∧ ∀ c ∈ steps, c.IsStep := by
  refine ⟨p.pieces.filterMap component?, by rw [components, if_pos h], ?_⟩
  intro c hc
  obtain ⟨piece, hpiece, hc⟩ := List.mem_filterMap.1 hc
  exact ((component?_eq_some_iff (notMem_of_mem_splitSlashes hpiece)).1 hc).1

/-- The empty piece in front of the first slash is no component. -/
theorem components_eq_of_absolute (h : p.isAbsolute = true) :
    p.components = .root :: (splitSlashes p.units).filterMap component? := by
  obtain ⟨rest, hrest⟩ : ∃ rest, p.units = slash :: rest := by
    cases hunits : p.units with
    | nil => simp [isAbsolute, hunits] at h
    | cons u rest => simpa [isAbsolute, hunits] using h
  rw [components, if_pos h, pieces, if_pos h, hrest, splitSlashes_slash, List.filterMap_cons_none rfl]
  rfl

/-- A relative path has no root among its components. -/
theorem isStep_of_mem_components (h : p.isAbsolute ≠ true) (hc : c ∈ p.components) : c = .current ∨ c.IsStep := by
  have hslash : ∀ piece ∈ p.pieces, slash ∉ piece := fun _ hpiece => notMem_of_mem_splitSlashes hpiece
  have hstep : ∀ piece, slash ∉ piece → component? piece = some c → c.IsStep := fun piece hpiece hc =>
    ((component?_eq_some_iff hpiece).1 hc).1
  rw [components, if_neg h] at hc
  cases hp : p.pieces with
  | nil => simp [hp] at hc
  | cons first rest =>
    rw [hp] at hc hslash
    rcases List.mem_append.1 hc with hc | hc
    · rw [Option.mem_toList, firstComponent?] at hc
      split at hc
      · exact Or.inl (Option.some.inj hc).symm
      · exact Or.inr (hstep first (hslash first (by simp)) hc)
    · obtain ⟨piece, hpiece, hc⟩ := List.mem_filterMap.1 hc
      exact Or.inr (hstep piece (hslash piece (by simp [hpiece])) hc)

theorem root_mem_components_iff : .root ∈ p.components ↔ p.isAbsolute = true := by
  constructor
  · intro hroot
    by_contra h
    rcases isStep_of_mem_components h hroot with hc | hc
    · cases hc
    · exact hc
  · intro h
    obtain ⟨steps, hp, -⟩ := components_of_absolute h
    simp [hp]

/-- Steps are read back from their texts between slashes. -/
theorem filterMap_component?_piece (h : ∀ c ∈ cs, c.IsStep) : (cs.map Path.piece).filterMap component? = cs := by
  have hsome : ∀ c ∈ cs, (component? ∘ Path.piece) c = some c := fun c hc =>
    (component?_eq_some_iff (notMem_piece (h c hc))).2 ⟨h c hc, rfl⟩
  rw [List.filterMap_map, List.filterMap_congr hsome, List.filterMap_some]

theorem splitSlashes_joinSlashes_piece (hne : cs ≠ []) (h : ∀ c ∈ cs, c.IsStep) :
    splitSlashes (joinSlashes (cs.map Path.piece)) = cs.map Path.piece := by
  apply splitSlashes_joinSlashes (by simpa using hne)
  intro piece hpiece
  obtain ⟨c, hc, rfl⟩ := List.mem_map.1 hpiece
  exact notMem_piece (h c hc)

/-- The steps of an absolute path are read back from the path that they make up. -/
theorem components_ofComponents (h : ∀ c ∈ cs, c.IsStep) : (ofComponents (.root :: cs)).components = .root :: cs := by
  have habsolute : (ofComponents (.root :: cs)).isAbsolute = true := by simp [ofComponents, isAbsolute]
  have hpieces : (ofComponents (.root :: cs)).pieces = splitSlashes (joinSlashes (cs.map Path.piece)) := by
    rw [pieces, if_pos habsolute]
    rfl
  rw [components, if_pos habsolute, hpieces]
  congr 1
  by_cases hne : cs = []
  · subst hne
    rfl
  · rw [splitSlashes_joinSlashes_piece hne h, filterMap_component?_piece h]

/-! ## Normal forms -/

/-- A step that does not go up is a name. -/
theorem exists_name_of_isStep (h : c.IsStep) (hup : c ≠ .parent) : ∃ n, c = .name n := by
  cases c with
  | root => exact h.elim
  | current => exact h.elim
  | parent => exact absurd rfl hup
  | name n => exact ⟨n, rfl⟩

theorem exists_name_of_mem (h : ∀ c ∈ cs, c.IsStep) (hup : .parent ∉ cs) (hc : c ∈ cs) : ∃ n, c = .name n :=
  exists_name_of_isStep (h c hc) (ne_of_mem_of_not_mem hc hup)

/-- Names are put behind what is there. -/
theorem foldl_normalStep_of_names (h : ∀ c ∈ cs, ∃ n, c = .name n) (built : List Component) :
    cs.foldl normalStep built = cs.reverse ++ built := by
  induction cs generalizing built with
  | nil => rfl
  | cons c cs ih =>
    obtain ⟨n, rfl⟩ := h c (by simp)
    rw [List.foldl_cons, ih fun x hx => h x (by simp [hx])]
    simp [normalStep]

theorem normalStep_name (n : FileName) (built : List Component) : normalStep (.name n :: built) .parent = built := rfl

theorem normalStep_parent {built : List Component} (h : ∀ n, built.head? ≠ some (.name n)) :
    normalStep built .parent = .parent :: built := by
  cases built with
  | nil => rfl
  | cons c built =>
    cases c with
    | name n => exact absurd rfl (h n)
    | root | current | parent => rfl

/-- Steps from the root lead to steps from the root. -/
theorem foldl_normalStep_of_steps {built : List Component} (hb : ∀ c ∈ built, c.IsStep) (h : ∀ c ∈ cs, c.IsStep) :
    ∃ built', cs.foldl normalStep (built ++ [.root]) = built' ++ [.root] ∧ ∀ c ∈ built', c.IsStep := by
  induction cs generalizing built with
  | nil => exact ⟨built, rfl, hb⟩
  | cons c cs ih =>
    have hcs : ∀ c ∈ cs, c.IsStep := fun x hx => h x (by simp [hx])
    rw [List.foldl_cons]
    have hpush : c.IsStep → ∀ x ∈ c :: built, x.IsStep := by
      intro hc x hx
      rcases List.mem_cons.1 hx with rfl | hx
      · exact hc
      · exact hb x hx
    cases c with
    | root => exact (h .root (by simp)).elim
    | current => exact (h .current (by simp)).elim
    | name n => exact ih (hpush (h _ (by simp))) hcs
    | parent =>
      cases built with
      | nil => exact ih (hpush trivial) hcs
      | cons last rest =>
        cases last with
        | name n => exact ih (fun x hx => hb x (by simp [hx])) hcs
        | root => exact (hb .root (by simp)).elim
        | current => exact (hb .current (by simp)).elim
        | parent => exact ih (hpush trivial) hcs

/-- The normal form of an absolute path is absolute, and its components are those that were found. -/
theorem components_normalize (h : p.isAbsolute = true) :
    p.normalize.isAbsolute = true ∧ p.normalize.components = normalComponents p.components ∧
      ∃ steps, normalComponents p.components = .root :: steps ∧ ∀ c ∈ steps, c.IsStep := by
  obtain ⟨steps, hp, hsteps⟩ := components_of_absolute h
  obtain ⟨built, hbuilt, hb⟩ := foldl_normalStep_of_steps (List.forall_mem_nil Component.IsStep) hsteps
  have hnormal : normalComponents p.components = .root :: built.reverse := by
    rw [normalComponents, hp, List.foldl_cons]
    show (steps.foldl normalStep ([] ++ [.root])).reverse = _
    rw [hbuilt, List.reverse_append]
    rfl
  have hr : ∀ c ∈ built.reverse, c.IsStep := fun c hc => hb c (List.mem_reverse.1 hc)
  refine ⟨?_, ?_, built.reverse, hnormal, hr⟩
  · rw [normalize, hnormal]
    simp [ofComponents, isAbsolute]
  · rw [normalize, hnormal, components_ofComponents hr]

theorem isStep_normalStep {built : List Component} (hb : ∀ c ∈ built, c.IsStep) (hc : c = .current ∨ c.IsStep) :
    ∀ x ∈ normalStep built c, x.IsStep := by
  have hpush : c.IsStep → ∀ x ∈ c :: built, x.IsStep := by
    intro hc x hx
    rcases List.mem_cons.1 hx with rfl | hx
    · exact hc
    · exact hb x hx
  rcases hc with rfl | hc
  · exact hb
  · cases c with
    | root => exact hc.elim
    | current => exact hb
    | name n => exact hpush hc
    | parent =>
      intro x hx
      simp only [normalStep] at hx
      split at hx
      · exact hb x (by simp [hx])
      · exact hpush hc x hx

theorem isStep_normalComponents (h : ∀ c ∈ cs, c = .current ∨ c.IsStep) : ∀ c ∈ normalComponents cs, c.IsStep := by
  have hfold : ∀ built : List Component, (∀ c ∈ built, c.IsStep) → ∀ c ∈ cs.foldl normalStep built, c.IsStep := by
    induction cs with
    | nil => exact fun _ hb => hb
    | cons c cs ih => exact fun built hb => ih (fun x hx => h x (by simp [hx])) _ (isStep_normalStep hb (h c (by simp)))
  intro c hc
  exact hfold [] (by simp) c (List.mem_reverse.1 hc)

/-- The normal form of a relative path is relative. -/
theorem isAbsolute_of_normalize (h : p.normalize.isAbsolute = true) : p.isAbsolute = true := by
  by_contra hp
  have hsteps := isStep_normalComponents fun c hc => isStep_of_mem_components hp hc
  rw [normalize] at h
  cases hcs : normalComponents p.components with
  | nil => simp [hcs, ofComponents, joinSlashes, isAbsolute] at h
  | cons c cs =>
    rw [hcs] at h hsteps
    have hc := hsteps c (by simp)
    have hunits : (ofComponents (c :: cs)).units = Path.piece c ++ (cs.map Path.piece).flatMap (slash :: ·) := by
      rw [← joinSlashes_cons, ← List.map_cons]
      cases c with
      | root => exact hc.elim
      | current => rfl
      | parent => rfl
      | name n => rfl
    have hslash := notMem_piece hc
    cases hpiece : Path.piece c with
    | nil =>
      cases c with
      | root => exact hc.elim
      | current => exact hc.elim
      | parent => cases hpiece
      | name n => exact hc.1 hpiece
    | cons u piece =>
      rw [isAbsolute, hunits, hpiece] at h
      rw [hpiece] at hslash
      simp only [List.cons_append, List.head?_cons, beq_iff_eq, Option.some.injEq] at h
      exact hslash (by simp [h])

theorem ofComponents_components_normalize (h : p.normalize.isAbsolute = true) :
    ofComponents p.normalize.components = p.normalize := by
  rw [(components_normalize (isAbsolute_of_normalize h)).2.1]
  rfl

/-- Without `..` only the silent components are left out. -/
theorem normalComponents_of_notMem (h : .parent ∉ cs) : normalComponents cs = cs.filter (· ≠ .current) := by
  have hfold : ∀ built, cs.foldl normalStep built = (cs.filter (· ≠ .current)).reverse ++ built := by
    induction cs with
    | nil => intro built; rfl
    | cons c cs ih =>
      intro built
      simp only [List.mem_cons, not_or] at h
      rw [List.foldl_cons, ih h.2]
      cases c with
      | parent => exact absurd rfl h.1
      | current => simp [normalStep]
      | root => simp [normalStep]
      | name n => simp [normalStep]
  rw [normalComponents, hfold]
  simp

/-- The paths lead to the same place once `.` and `..` are resolved. -/
def Alike (p q : Path) : Prop := normalComponents p.components = normalComponents q.components

theorem filter_components_of_absolute (h : p.isAbsolute = true) : p.components.filter (· ≠ .current) = p.components := by
  obtain ⟨steps, hp, hsteps⟩ := components_of_absolute h
  rw [List.filter_eq_self]
  intro c hc
  simp only [decide_eq_true_eq]
  rintro rfl
  rw [hp] at hc
  rcases List.mem_cons.1 hc with hc | hc
  · cases hc
  · exact hsteps _ hc

/-- **Paths without `..`** lead to the same place when they have the same components. -/
theorem components_eq_iff_alike (habsolute : p.isAbsolute = true) (hp : .parent ∉ p.components) (hq : .parent ∉ q.components) :
    p.components = q.components ↔ p.Alike q := by
  unfold Alike
  refine ⟨fun h => by rw [h], fun h => ?_⟩
  rw [normalComponents_of_notMem hp, normalComponents_of_notMem hq, filter_components_of_absolute habsolute] at h
  -- the root is among the components of the other path, so there is nothing silent in it either
  have hroot : .root ∈ q.components := by
    have hm : .root ∈ p.components := root_mem_components_iff.2 habsolute
    rw [h] at hm
    exact List.mem_of_mem_filter hm
  rw [h, filter_components_of_absolute (root_mem_components_iff.1 hroot)]

end Path
end Classwright
