import Classwright.Proofs.Path.Normal
/-!
# Paths below a directory

A path is below a directory when its components begin with those of the directory. A relative path that
has a step up nowhere but at its end stays below a directory that it is put into, unless it is that step
alone (`isBelow_normalize_join_iff`).
-/
namespace Classwright.Path

variable {p dir : Path} {a : List Unit8} {piece : FileName} {built steps : List Component}

/-- The components of the path begin with those of the directory. -/
def IsBelow (p dir : Path) : Prop := dir.components <+: p.components

instance (p dir : Path) : Decidable (p.IsBelow dir) := inferInstanceAs (Decidable (_ <+: _))

theorem IsBelow.isAbsolute (h : p.IsBelow dir) (hdir : dir.isAbsolute = true) : p.isAbsolute = true :=
  root_mem_components_iff.1 (h.subset (root_mem_components_iff.2 hdir))

/-! ## Steps between slashes -/

/-- The components between slashes that are not at the start of a path. -/
def stepsOf (a : List Unit8) : List Component := (splitSlashes a).filterMap component?

theorem stepsOf_append_slash (a b : List Unit8) : stepsOf (a ++ slash :: b) = stepsOf a ++ stepsOf b := by
  rw [stepsOf, splitSlashes_append_slash, List.filterMap_append]
  rfl

theorem stepsOf_of_notMem (h : slash ∉ a) : stepsOf a = (component? a).toList := by
  rw [stepsOf, splitSlashes_of_notMem h]
  cases hc : component? a <;> simp [hc]

theorem isStep_of_mem_stepsOf {c : Component} (h : c ∈ stepsOf a) : c.IsStep := by
  obtain ⟨piece, hpiece, hc⟩ := List.mem_filterMap.1 h
  exact ((component?_eq_some_iff (notMem_of_mem_splitSlashes hpiece)).1 hc).1

/-- A relative path puts its steps behind those of a directory. -/
theorem components_join (hdir : dir.isAbsolute = true) (hp : p.isAbsolute ≠ true) :
    (dir.join p).components = dir.components ++ stepsOf p.units := by
  have hnil : dir.units ≠ [] := fun h => by simp [isAbsolute, h] at hdir
  rw [components_eq_of_absolute (isAbsolute_join hdir p), components_eq_of_absolute hdir, ← stepsOf, ← stepsOf, join,
    if_neg hp, List.cons_append]
  split
  · next hend =>
    have hlast : dir.units.getLast? = some slash := by simpa [hnil] using hend
    obtain ⟨before, hbefore⟩ := List.getLast?_eq_some_iff.1 hlast
    rw [hbefore, List.append_assoc, List.singleton_append, stepsOf_append_slash, stepsOf_append_slash,
      show stepsOf [] = [] from rfl, List.append_nil]
  · rw [stepsOf_append_slash]

/-! ## Steps up at the end -/

theorem flatMap_splitSlashes (a : List Unit8) : (splitSlashes a).flatMap (· ++ [slash]) = a ++ [slash] := by
  induction a with
  | nil => rfl
  | cons u a ih =>
    by_cases hu : u = slash
    · simp [hu, ih]
    · obtain ⟨piece, more, h1, h2⟩ := splitSlashes_cons_of_ne hu a
      rw [h1, List.flatMap_cons] at ih
      rw [h2, List.flatMap_cons, List.cons_append, List.cons_append, ih, List.cons_append]

theorem isInfix_of_mem_splitSlashes (h : piece ∈ splitSlashes a) : piece ++ [slash] <:+: a ++ [slash] := by
  obtain ⟨front, back, hsplit⟩ := List.append_of_mem h
  rw [← flatMap_splitSlashes a, hsplit, List.flatMap_append, List.flatMap_cons]
  exact ⟨front.flatMap (· ++ [slash]), back.flatMap (· ++ [slash]), by simp⟩

/-- Pieces with a slash behind them are names where no dot stands in front of a slash. -/
theorem of_mem_splitSlashes (h : ¬ dot ++ [slash] <:+: a ++ [slash]) (hpiece : piece ∈ splitSlashes a) :
    piece = [] ∨ ∃ n, component? piece = some (.name n) := by
  have hinfix := isInfix_of_mem_splitSlashes hpiece
  have hdot : piece ≠ dot := by
    rintro rfl
    exact h hinfix
  have hup : piece ≠ dotDot := by
    rintro rfl
    exact h (.trans ⟨dot, [], rfl⟩ hinfix)
  by_cases hnil : piece = []
  · exact Or.inl hnil
  · exact Or.inr ⟨piece, by simp [component?, hnil, hdot, hup]⟩

theorem notMem_stepsOf (h : ¬ dot ++ [slash] <:+: a ++ [slash]) : .parent ∉ stepsOf a := by
  intro hm
  obtain ⟨piece, hpiece, hc⟩ := List.mem_filterMap.1 hm
  rcases of_mem_splitSlashes h hpiece with rfl | ⟨n, hn⟩
  · cases hc
  · rw [hn] at hc
    cases hc

/-- Without steps there are slashes only. -/
theorem head?_of_stepsOf_eq_nil (h : ¬ dot ++ [slash] <:+: a ++ [slash]) (hnil : stepsOf a = []) :
    a = [] ∨ a.head? = some slash := by
  cases a with
  | nil => exact Or.inl rfl
  | cons u a =>
    right
    by_contra hu
    obtain ⟨piece, more, -, h2⟩ := splitSlashes_cons_of_ne (by simpa using hu) a
    have hmem : u :: piece ∈ splitSlashes (u :: a) := by simp [h2]
    rcases of_mem_splitSlashes h hmem with hpiece | ⟨n, hn⟩
    · cases hpiece
    · have hstep : .name n ∈ stepsOf (u :: a) := List.mem_filterMap.2 ⟨_, hmem, hn⟩
      rw [hnil] at hstep
      cases hstep

theorem exists_last_slash (h : slash ∈ a) : ∃ front last, a = front ++ slash :: last ∧ slash ∉ last := by
  obtain ⟨x, y, hxy, hx⟩ := List.eq_append_cons_of_mem (List.mem_reverse.2 h)
  exact ⟨y.reverse, x.reverse, by simpa using congrArg List.reverse hxy, by simpa using hx⟩

/-- **Where no dot stands in front of a slash** a step up is the last step. It is the only one when nothing
but slashes are in front of it. -/
theorem stepsOf_cases (h : ¬ dot ++ [slash] <:+: a) : .parent ∉ stepsOf a ∨
    ∃ front, stepsOf a = front ++ [.parent] ∧ .parent ∉ front ∧ (front = [] → a = dotDot ∨ a.head? = some slash) := by
  by_cases hslash : slash ∈ a
  · obtain ⟨front, last, rfl, hlast⟩ := exists_last_slash hslash
    have hfront : ¬ dot ++ [slash] <:+: front ++ [slash] := fun hi => h (hi.trans ⟨[], last, by simp⟩)
    rw [stepsOf_append_slash, stepsOf_of_notMem hlast]
    by_cases hup : last = dotDot
    · subst hup
      refine Or.inr ⟨stepsOf front, rfl, notMem_stepsOf hfront, fun hnil => Or.inr ?_⟩
      rcases head?_of_stepsOf_eq_nil hfront hnil with rfl | hhead
      · rfl
      · simp [hhead]
    · left
      have hc : component? last ≠ some .parent := by
        rw [ne_eq, component?_eq_some_iff hlast]
        exact fun hc => hup hc.2.symm
      rw [List.mem_append, not_or, Option.mem_toList]
      exact ⟨notMem_stepsOf hfront, hc⟩
  · rw [stepsOf_of_notMem hslash]
    by_cases hup : a = dotDot
    · subst hup
      exact Or.inr ⟨[], rfl, by simp, fun _ => Or.inl rfl⟩
    · left
      have hc : component? a ≠ some .parent := by
        rw [ne_eq, component?_eq_some_iff hslash]
        exact fun hc => hup hc.2.symm
      rw [Option.mem_toList]
      exact hc

/-! ## Below a directory -/

/-- The normal form of a path in a directory that is a normal form itself. -/
theorem components_normalize_join (hdir : dir.isAbsolute = true) (hnormal : dir.normalize.components = dir.components)
    (hp : p.isAbsolute ≠ true) :
    (dir.join p).normalize.components = ((stepsOf p.units).foldl normalStep dir.components.reverse).reverse := by
  have hdirNormal : normalComponents dir.components = dir.components := by
    rw [← (components_normalize hdir).2.1, hnormal]
  have hfold : dir.components.foldl normalStep [] = dir.components.reverse := by
    conv_rhs => rw [← hdirNormal, normalComponents, List.reverse_reverse]
  rw [(components_normalize (isAbsolute_join hdir p)).2.1, components_join hdir hp, normalComponents, List.foldl_append, hfold]

/-- **A relative path stays below a directory** that is a normal form, when no dot stands in front of a
slash. Only a step up alone leads out, from a directory that ends in a name. -/
theorem isBelow_normalize_join_iff (hdir : dir.isAbsolute = true) (hnormal : dir.normalize.components = dir.components)
    (hp : p.isAbsolute ≠ true) (h : ¬ dot ++ [slash] <:+: p.units) :
    (dir.join p).normalize.IsBelow dir ↔ (p.units = dotDot → ∀ n, dir.components.getLast? ≠ some (.name n)) := by
  have hsteps : ∀ c ∈ stepsOf p.units, c.IsStep := fun c hc => isStep_of_mem_stepsOf hc
  rw [IsBelow, components_normalize_join hdir hnormal hp]
  rcases stepsOf_cases h with hup | ⟨front, hfront, hup, hnil⟩
  · rw [foldl_normalStep_of_names fun c hc => exists_name_of_mem hsteps hup hc]
    refine iff_of_true ⟨stepsOf p.units, by simp⟩ fun hp => ?_
    rw [hp] at hup
    exact absurd (by decide) hup
  · rw [hfront] at hsteps
    have hsteps' : ∀ c ∈ front, c.IsStep := fun c hc => hsteps c (by simp [hc])
    rw [hfront, List.foldl_append, foldl_normalStep_of_names fun c hc => exists_name_of_mem hsteps' hup hc]
    rcases List.eq_nil_or_concat front with rfl | ⟨names, last, rfl⟩
    · -- the step up is the only step, and what it takes back is the end of the directory
      have hunits : p.units = dotDot := (hnil rfl).resolve_right fun hhead => hp (by simp [isAbsolute, hhead])
      rw [List.reverse_nil, List.nil_append, List.foldl_cons, List.foldl_nil]
      constructor
      · rintro hbelow - n hlast
        obtain ⟨before, hbefore⟩ := List.getLast?_eq_some_iff.1 hlast
        rw [hbefore, List.reverse_append, List.reverse_singleton, List.singleton_append, normalStep_name,
          List.reverse_reverse] at hbelow
        have := hbelow.length_le
        rw [List.length_append, List.length_singleton] at this
        omega
      · intro hname
        rw [normalStep_parent fun n => by rw [List.head?_reverse]; exact hname hunits n]
        exact ⟨[.parent], by simp⟩
    · -- the step up takes back the name in front of it
      rw [List.concat_eq_append] at hup hsteps
      obtain ⟨n, rfl⟩ := exists_name_of_isStep (hsteps last (by simp)) (by rintro rfl; simp at hup)
      refine iff_of_true ⟨names, by simp [normalStep]⟩ fun hunits => ?_
      rw [hunits, show stepsOf dotDot = [.parent] from rfl] at hfront
      have := congrArg List.length hfront
      simp at this

end Classwright.Path
