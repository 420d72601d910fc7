import Classwright.Proofs.Counterpart.Nearest
/-!
# The other file of a pair

The other file of a pair is the first counterpart that is a file beside the path. When there is none it
is the nearest file in the workspace that has the name of a counterpart (`find?_eq_iff_answer`).
-/
namespace Classwright.Counterpart

open FileNode Path

variable {tree : FileTree} {p dir r : Path} {ms : List ExtensionMapping} {roots : List Path} {names : List Text}
  {extension : Text} {extensions : List Text} {answer : Option Path}

/-! ## What is sought -/

/-- The extensions on the other side of one, in the first mapping that lists it. -/
def OtherSide (ms : List ExtensionMapping) (extension : Text) (extensions : List Text) : Prop :=
  ∃ before m after, ms = before ++ m :: after ∧ (∀ other ∈ before, extension ∉ other.header ∧ extension ∉ other.source) ∧
    (extension ∈ m.header ∧ extensions = m.source ∨
      extension ∉ m.header ∧ extension ∈ m.source ∧ extensions = m.header)

/-- The names of the counterparts of a path, in the order of their extensions. -/
def Sought (p : Path) (ms : List ExtensionMapping) (names : List Text) : Prop :=
  ∃ stem extension extensions, p.stem? = some stem ∧ p.extension? = some extension ∧
    OtherSide ms ('.' :: extension) extensions ∧ names = extensions.map (stem ++ ·)

theorem counterparts?_eq_some_iff {m : ExtensionMapping} : m.counterparts? extension = some extensions ↔
    extension ∈ m.header ∧ extensions = m.source ∨ extension ∉ m.header ∧ extension ∈ m.source ∧ extensions = m.header := by
  rw [ExtensionMapping.counterparts?]
  by_cases hheader : extension ∈ m.header
  · simp [hheader, eq_comm]
  · by_cases hsource : extension ∈ m.source
    · simp [hheader, hsource, eq_comm]
    · simp [hheader, hsource]

theorem counterparts?_eq_none_iff {m : ExtensionMapping} :
    m.counterparts? extension = none ↔ extension ∉ m.header ∧ extension ∉ m.source := by
  rw [ExtensionMapping.counterparts?]
  by_cases hheader : extension ∈ m.header
  · simp [hheader]
  · simp [hheader]

theorem counterpartExtensions_eq_some_iff :
    counterpartExtensions extension ms = some extensions ↔ OtherSide ms extension extensions := by
  rw [counterpartExtensions, List.findSome?_eq_some_iff, OtherSide]
  simp only [counterparts?_eq_some_iff, counterparts?_eq_none_iff]
  refine exists₃_congr fun before m after => and_congr_right fun _ => and_comm

/-- The result of a search for names, when a path has counterparts. -/
theorem find?_of_sought (h : Sought p ms names) (hdir : p.parent? = some dir) :
    find? tree p ms roots = ((names.map fun n => dir.join (.ofText n)).find? tree.isFile).or
      (((roots.flatMap (filesOfRoot tree)).filter fun f => (text? (lastName f)).any names.contains).foldl (nearer dir) none) := by
  obtain ⟨stem, extension, extensions, hstem, hext, hother, rfl⟩ := h
  simp only [find?, hstem, hext, hdir, counterpartExtensions_eq_some_iff.2 hother, Option.bind_eq_bind, Option.bind_some]
  split
  · next hs => rw [hs]; rfl
  · next hs => rw [hs]; rfl

theorem find?_eq_none_of_not_sought (h : ∀ names, ¬ Sought p ms names) : find? tree p ms roots = none := by
  rw [Option.eq_none_iff_forall_ne_some]
  intro q hq
  simp only [find?, Option.bind_eq_bind, Option.bind_eq_some_iff] at hq
  obtain ⟨extension, hext, stem, hstem, extensions, hother, -⟩ := hq
  exact h _ ⟨stem, extension, extensions, hstem, hext, counterpartExtensions_eq_some_iff.1 hother, rfl⟩

theorem Sought.exists_parent? (h : Sought p ms names) : ∃ dir, p.parent? = some dir := by
  obtain ⟨stem, -, -, hstem, -⟩ := h
  simp only [stem?, Option.bind_eq_bind, Option.bind_eq_some_iff] at hstem
  obtain ⟨name, hname, -⟩ := hstem
  exact exists_parent?_of_fileName? hname

def NoneBeside (tree : FileTree) (dir : Path) (names : List Text) : Prop :=
  ∀ name ∈ names, tree.isFile (dir.join (.ofText name)) = false

/-- The other file of a pair. -/
inductive Answer (tree : FileTree) (p : Path) (ms : List ExtensionMapping) (roots : List Path) : Option Path → Prop
  /-- The path has no extension that a mapping lists. -/
  | unmapped : (∀ names, ¬ Sought p ms names) → Answer tree p ms roots none
  /-- The first counterpart that is a file beside the path. -/
  | sibling {names before after : List Text} {dir : Path} {name : Text} : Sought p ms names → p.parent? = some dir →
      names = before ++ name :: after → NoneBeside tree dir before → tree.isFile (dir.join (.ofText name)) = true →
      Answer tree p ms roots (some (dir.join (.ofText name)))
  /-- The nearest candidate. -/
  | nearest {names : List Text} {dir : Path} {c : Place} : Sought p ms names → p.parent? = some dir →
      NoneBeside tree dir names → IsNearest tree roots names dir c → Answer tree p ms roots (some c.path)
  /-- There is no candidate. -/
  | nothing {names : List Text} {dir : Path} : Sought p ms names → p.parent? = some dir →
      NoneBeside tree dir names → (∀ c, ¬ Candidate tree roots names c) → Answer tree p ms roots none

theorem find?_siblings_eq_none_iff : (names.map fun n => dir.join (.ofText n)).find? tree.isFile = none ↔
    NoneBeside tree dir names := by
  simp [NoneBeside]

theorem find?_siblings_eq_some_iff : (names.map fun n => dir.join (.ofText n)).find? tree.isFile = some r ↔
    ∃ before name after, names = before ++ name :: after ∧ NoneBeside tree dir before ∧
      tree.isFile (dir.join (.ofText name)) = true ∧ r = dir.join (.ofText name) := by
  simp only [NoneBeside, List.find?_map, Option.map_eq_some_iff, List.find?_eq_some_iff_append, Function.comp_apply, Bool.not_eq_true']
  constructor
  · rintro ⟨name, ⟨hfile, before, after, hnames, hbefore⟩, rfl⟩
    exact ⟨before, name, after, hnames, hbefore, hfile, rfl⟩
  · rintro ⟨before, name, after, hnames, hbefore, hfile, rfl⟩
    exact ⟨name, ⟨hfile, before, after, hnames, hbefore⟩, rfl⟩

/-- **The other file of a pair** is found whatever the tree, the path, the mappings and the roots are. -/
theorem find?_eq_iff_answer (h : tree.root.WellFormed) : find? tree p ms roots = answer ↔ Answer tree p ms roots answer := by
  constructor
  · rintro rfl
    by_cases hs : ∃ names, Sought p ms names
    · obtain ⟨names, hs⟩ := hs
      obtain ⟨dir, hdir⟩ := hs.exists_parent?
      rw [find?_of_sought hs hdir, foldl_nearer_filesOfRoot]
      cases hsibling : (names.map fun n => dir.join (.ofText n)).find? tree.isFile with
      | some sibling =>
        obtain ⟨before, name, after, hnames, hbefore, hfile, rfl⟩ := find?_siblings_eq_some_iff.1 hsibling
        exact .sibling hs hdir hnames hbefore hfile
      | none =>
        rw [find?_siblings_eq_none_iff] at hsibling
        rw [Option.none_or]
        cases hnear : (candidates tree roots names).argmin (distance dir) with
        | some c => exact .nearest hs hdir hsibling ((argmin_candidates_eq_some_iff h).1 hnear)
        | none => exact .nothing hs hdir hsibling ((argmin_candidates_eq_none_iff h).1 hnear)
    · rw [not_exists] at hs
      rw [find?_eq_none_of_not_sought hs]
      exact .unmapped hs
  · rintro (hs | ⟨hs, hdir, hnames, hbefore, hfile⟩ | ⟨hs, hdir, hsibling, hnear⟩ | ⟨hs, hdir, hsibling, hnone⟩)
    · exact find?_eq_none_of_not_sought hs
    · rw [find?_of_sought hs hdir, find?_siblings_eq_some_iff.2 ⟨_, _, _, hnames, hbefore, hfile, rfl⟩]
      rfl
    · rw [find?_of_sought hs hdir, foldl_nearer_filesOfRoot, find?_siblings_eq_none_iff.2 hsibling,
        (argmin_candidates_eq_some_iff h).2 hnear]
      rfl
    · rw [find?_of_sought hs hdir, foldl_nearer_filesOfRoot, find?_siblings_eq_none_iff.2 hsibling,
        (argmin_candidates_eq_none_iff h).2 hnone]
      rfl

/-- A workspace with headers at the same distance from a source, and one in a directory without sources. -/
def engineTree : FileTree where
  root :=
    let entry (name : Text) (node : FileNode) := (name.toUnits, node)
    let source := FileNode.file (some [])
    .dir [entry "w" (.dir [
      entry "build" (.dir [entry "engine.h" source]),
      entry "lib" (.dir [
        entry "include" (.dir [entry "engine.h" source]),
        entry "src" (.dir [entry "build" (.dir [entry "engine.h" source]), entry "engine.cpp" source]),
        entry "zap" (.dir [entry "engine.hpp" source])])])]

theorem find?_eq_iff_answer_engineTree :
    engineTree.root.WellFormed ∧ Answer engineTree (.ofText "/w/lib/src/engine.cpp") ExtensionMapping.usual
      [.ofText "/nope", .ofText "/w", .ofText "/w/lib"] (some (.ofText "/w/lib/include/engine.h")) := by
  have h : engineTree.root.WellFormed := by decide +kernel
  refine ⟨h, (find?_eq_iff_answer h).1 ?_⟩
  decide +kernel

/-! ## What is passed over -/

/-- The name is neither hidden nor one of those of directories that hold no sources. It may be no text. -/
def Plain (name : FileName) : Prop := name.head? ≠ some (.char '.') ∧ ∀ t ∈ skippedNames, name ≠ t.toUnits

instance : DecidablePred Plain := fun name =>
  inferInstanceAs (Decidable (name.head? ≠ some (.char '.') ∧ ∀ t ∈ skippedNames, name ≠ t.toUnits))

/-- A search goes into the directories with plain names that are texts. -/
theorem searched_iff_plain {name : FileName} : Searched name ↔ Plain name ∧ ∃ t : Text, name = t.toUnits := by
  have hhead (t : Text) : t.toUnits.head? = some (.char '.') ↔ t.head? = some '.' := by
    cases t <;> simp [Text.toUnits]
  constructor
  · rintro ⟨t, rfl, hdot, hskipped⟩
    refine ⟨⟨by rwa [ne_eq, hhead], ?_⟩, t, rfl⟩
    intro u hu heq
    rw [Text.toUnits_injective heq] at hskipped
    exact hskipped hu
  · rintro ⟨⟨hdot, hskipped⟩, t, rfl⟩
    exact ⟨t, rfl, by rwa [ne_eq, hhead] at hdot, fun hm => hskipped t hm rfl⟩

/-- A source in `/w`, and its header in a directory there with a name of one byte that is no text. -/
def bytesTree : FileTree where
  root := .dir [(Text.toUnits "w", .dir [(Text.toUnits "engine.cpp", .file (some [])),
    ([.byte 0xFF], .dir [(Text.toUnits "engine.h", .file (some []))])])]

/-- A workspace in a directory that is named like one without sources. -/
def builtTree : FileTree where
  root := .dir [(Text.toUnits "build", .dir [(Text.toUnits "app", .dir [(Text.toUnits "include", .dir [(Text.toUnits "engine.h", .file (some []))]),
    (Text.toUnits "src", .dir [(Text.toUnits "engine.cpp", .file (some []))])])])]

/-- A file in a directory whose name is no text is not found, though no directory above it is hidden or without
sources. And what a root itself is in does not count. -/
theorem not_found_below_plain :
    (¬ ∀ (tree : FileTree) (p dir : Path) (ms : List ExtensionMapping) (roots : List Path) (names : List Text),
      tree.root.WellFormed → Sought p ms names → p.parent? = some dir → find? tree p ms roots = none →
        ∀ c : Place, roots[c.index]? = some c.root →
          (∃ node text, tree.node c.root = .ok node ∧ node.descend c.steps = some (.file text)) →
          (∃ name ∈ names, c.path.fileName? = some name.toUnits) → ∃ d ∈ c.steps.dropLast, ¬ Plain d) ∧
    ∃ r, find? builtTree (.ofText "/build/app/include/engine.h") ExtensionMapping.usual [.ofText "/build/app"] = some r ∧
      (Path.ofText "/build").components <+: r.components := by
  refine ⟨fun h => ?_, .ofText "/build/app/src/engine.cpp", by decide +kernel, by decide +kernel⟩
  have hsought : Sought (.ofText "/w/engine.cpp") ExtensionMapping.usual (["h", "hpp", "hh", "hxx"].map fun e => "engine." ++ e) := by
    refine ⟨"engine", "cpp", _, by decide +kernel, by decide +kernel, counterpartExtensions_eq_some_iff.1 rfl, by decide⟩
  obtain ⟨d, hd, hplain⟩ := h bytesTree (.ofText "/w/engine.cpp") (.ofText "/w") ExtensionMapping.usual [.ofText "/w"] _
    (by decide +kernel) hsought (by decide +kernel) (by decide +kernel) ⟨0, .ofText "/w", [[.byte 0xFF], Text.toUnits "engine.h"]⟩ rfl
    ⟨_, some [], rfl, rfl⟩ ⟨"engine.h", by decide, by decide +kernel⟩
  obtain rfl := List.mem_singleton.1 hd
  exact hplain (by decide)

end Classwright.Counterpart
