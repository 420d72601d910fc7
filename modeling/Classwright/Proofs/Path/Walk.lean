import Classwright.Proofs.Path.Normal
/-!
# Walking along a path

A path is walked from a directory, component by component: a name goes down, `..` goes back up, and the
root starts over. The normal form of a path leads from every directory to the same place as the path
(`walk_normalComponents`). It is in a form of its own, all steps up in front of all names
(`normalForm_normalComponents`), which normalizing leaves as it is.
-/
namespace Classwright.Path

variable {p : Path} {c : Component} {cs : List Component} {absolute : Bool}

/-! ## Walking -/

/-- Where a component leads from a directory. A directory is the names on the way to it from the root,
the last one first; above the root there is only the root. -/
def stepFrom (here : List FileName) : Component → List FileName
  | .root => []
  | .current => here
  | .parent => here.tail
  | .name n => n :: here

/-- Where components lead one after the other. -/
def walk (here : List FileName) (cs : List Component) : List FileName := cs.foldl stepFrom here

theorem walk_concat (here : List FileName) (cs : List Component) (c : Component) :
    walk here (cs ++ [c]) = stepFrom (walk here cs) c := by
  simp [walk]

/-- A component leads to the same place from what was built so far, also when it takes a name back. -/
theorem walk_normalStep (here : List FileName) (built : List Component) (c : Component) :
    walk here (normalStep built c).reverse = stepFrom (walk here built.reverse) c := by
  cases c with
  | root => simp [normalStep, walk_concat]
  | current => rfl
  | name n => simp [normalStep, walk_concat]
  | parent =>
    by_cases hname : ∃ n, built.head? = some (.name n)
    · obtain ⟨n, hn⟩ := hname
      obtain ⟨rest, rfl⟩ := List.head?_eq_some_iff.1 hn
      rw [normalStep_name, List.reverse_cons, walk_concat]
      rfl
    · rw [normalStep_parent fun n hn => hname ⟨n, hn⟩, List.reverse_cons, walk_concat]

theorem walk_foldl_normalStep (here : List FileName) (cs built : List Component) :
    walk here (cs.foldl normalStep built).reverse = walk (walk here built.reverse) cs := by
  induction cs generalizing built with
  | nil => rfl
  | cons c cs ih => rw [List.foldl_cons, ih, walk_normalStep]; rfl

/-- **The normal form leads to the same place** from every directory. -/
theorem walk_normalComponents (here : List FileName) (cs : List Component) :
    walk here (normalComponents cs) = walk here cs :=
  walk_foldl_normalStep here cs []

/-! ## The form -/

/-- What an absolute path has in front of its steps. -/
def leading (absolute : Bool) : List Component := if absolute then [.root] else []

/-- The steps up come before the names, and there is nothing else. -/
def NormalForm (absolute : Bool) (cs : List Component) : Prop :=
  ∃ (ups : Nat) (names : List FileName), cs = leading absolute ++ List.replicate ups .parent ++ names.map .name

theorem reverse_leading (absolute : Bool) : (leading absolute).reverse = leading absolute := by
  cases absolute <;> rfl

/-- There is no name in front of the last steps up, so one more stays. -/
theorem head?_ups_ne (absolute : Bool) (ups : Nat) (n : FileName) :
    (List.replicate ups Component.parent ++ leading absolute).head? ≠ some (.name n) := by
  cases ups <;> cases absolute <;> simp [leading, List.replicate_succ]

/-- The invariant of building a normal form: names on top of steps up. -/
theorem normalForm_normalStep {built : List Component} (h : NormalForm absolute built.reverse) (hc : c ≠ .root) :
    NormalForm absolute (normalStep built c).reverse := by
  obtain ⟨ups, names, hbuilt⟩ := h
  have hb : built = (names.map .name).reverse ++ (List.replicate ups .parent ++ leading absolute) := by
    have := congrArg List.reverse hbuilt
    simpa [reverse_leading] using this
  cases c with
  | root => exact absurd rfl hc
  | current => exact ⟨ups, names, hbuilt⟩
  | name n =>
    refine ⟨ups, names ++ [n], ?_⟩
    simp [normalStep, hbuilt]
  | parent =>
    rcases List.eq_nil_or_concat names with rfl | ⟨front, last, rfl⟩
    · -- no name is left to take back
      have hhead : ∀ n, built.head? ≠ some (.name n) := by
        intro n
        rw [hb]
        exact head?_ups_ne absolute ups n
      refine ⟨ups + 1, [], ?_⟩
      rw [normalStep_parent hhead, List.reverse_cons, hbuilt, List.replicate_succ']
      simp
    · refine ⟨ups, front, ?_⟩
      rw [hb]
      simp [normalStep_name, reverse_leading]

theorem normalForm_foldl_normalStep {built : List Component} (h : NormalForm absolute built.reverse)
    (hcs : .root ∉ cs) : NormalForm absolute (cs.foldl normalStep built).reverse := by
  induction cs generalizing built with
  | nil => exact h
  | cons c cs ih =>
    rw [List.mem_cons, not_or] at hcs
    exact ih (normalForm_normalStep h (Ne.symm hcs.1)) hcs.2

/-- The root can only be in front. -/
theorem exists_leading (p : Path) : ∃ steps, p.components = leading p.isAbsolute ++ steps ∧ .root ∉ steps := by
  by_cases h : p.isAbsolute = true
  · obtain ⟨steps, hp, hsteps⟩ := components_of_absolute h
    refine ⟨steps, by rw [hp, h]; rfl, ?_⟩
    intro hroot
    exact hsteps .root hroot
  · refine ⟨p.components, by simp [leading, h], ?_⟩
    rwa [root_mem_components_iff]

/-- **The components of a normal form** are steps up and then names. -/
theorem normalForm_normalComponents (p : Path) : NormalForm p.isAbsolute (normalComponents p.components) := by
  obtain ⟨steps, hp, hroot⟩ := exists_leading p
  rw [hp, normalComponents, List.foldl_append]
  apply normalForm_foldl_normalStep _ hroot
  refine ⟨0, [], ?_⟩
  cases p.isAbsolute <;> rfl

/-- Steps up are put behind each other where there is no name to take back. -/
theorem foldl_normalStep_ups (absolute : Bool) (ups : Nat) :
    (List.replicate ups Component.parent).foldl normalStep (leading absolute) =
      List.replicate ups .parent ++ leading absolute := by
  induction ups with
  | zero => rfl
  | succ ups ih =>
    rw [List.replicate_succ', List.foldl_append, ih, List.foldl_cons, List.foldl_nil,
      normalStep_parent (head?_ups_ne absolute ups), ← List.replicate_succ', List.replicate_succ]
    rfl

/-- A normal form is left as it is. -/
theorem NormalForm.normalComponents (h : NormalForm absolute cs) : normalComponents cs = cs := by
  obtain ⟨ups, names, rfl⟩ := h
  have hleading : (leading absolute).foldl normalStep [] = leading absolute := by
    cases absolute <;> rfl
  have hnames : ∀ c ∈ names.map Component.name, ∃ n, c = .name n := by
    intro c hc
    obtain ⟨n, -, rfl⟩ := List.mem_map.1 hc
    exact ⟨n, rfl⟩
  rw [Path.normalComponents, List.foldl_append, List.foldl_append, hleading, foldl_normalStep_ups,
    foldl_normalStep_of_names hnames]
  simp [reverse_leading]

/-! ## Paths -/

/-- The steps of a relative path are read back from the path that they make up. -/
theorem components_ofComponents_of_steps (h : ∀ c ∈ cs, c.IsStep) (hrelative : (ofComponents cs).isAbsolute ≠ true) :
    (ofComponents cs).components = cs := by
  cases cs with
  | nil => rfl
  | cons c cs =>
    have hc : c.IsStep := h c (by simp)
    have hunits : ofComponents (c :: cs) = ⟨joinSlashes ((c :: cs).map Path.piece)⟩ := by
      cases c with
      | root => exact hc.elim
      | current | parent | name n => rfl
    have hpieces : (ofComponents (c :: cs)).pieces = Path.piece c :: cs.map Path.piece := by
      rw [pieces, if_neg hrelative, hunits, splitSlashes_joinSlashes_piece (by simp) h]
      rfl
    have hfirst : component? (Path.piece c) = some c := (component?_eq_some_iff (notMem_piece hc)).2 ⟨hc, rfl⟩
    have hdot : Path.piece c ≠ dot := by
      intro hdot
      rw [hdot] at hfirst
      cases hfirst
    have hrest : ∀ c' ∈ cs, c'.IsStep := fun c' hc' => h c' (by simp [hc'])
    rw [components, if_neg hrelative, hpieces]
    simp only [firstComponent?, if_neg hdot, hfirst, filterMap_component?_piece hrest]
    rfl

/-- The normal form has the components that were found. -/
theorem components_normalize_eq (p : Path) : p.normalize.components = normalComponents p.components := by
  by_cases h : p.isAbsolute = true
  · exact (components_normalize h).2.1
  · have hsteps := isStep_normalComponents fun c hc => isStep_of_mem_components h hc
    exact components_ofComponents_of_steps hsteps (mt isAbsolute_of_normalize h)

/-- **A normal form keeps the meaning of a path.** Behind the root, if there is one, it has some steps up
and then names only. To normalize it again changes nothing, and from every directory it leads where the
path leads. -/
theorem normalize_normalForm (p : Path) :
    NormalForm p.isAbsolute p.normalize.components ∧ p.normalize.normalize = p.normalize ∧
      ∀ here, walk here p.normalize.components = walk here p.components := by
  have hform : NormalForm p.isAbsolute p.normalize.components := by
    rw [components_normalize_eq]
    exact normalForm_normalComponents p
  refine ⟨hform, ?_, ?_⟩
  · rw [normalize, hform.normalComponents, components_normalize_eq, normalize]
  · intro here
    rw [components_normalize_eq, walk_normalComponents]

/-- Steps up above the root stay in front. -/
example : (Path.ofText "/a/./..//../b/c/../d/").normalize = .ofText "/../b/d" := by decide

end Classwright.Path
