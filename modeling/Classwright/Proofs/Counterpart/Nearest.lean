import Mathlib.Data.List.MinMax
import Classwright.Proofs.Counterpart.Walk
import Classwright.Proofs.Path.LastName
import Classwright.Proofs.Text.Search
import Classwright.Proofs.Text.Utf8
/-!
# The nearest file

Of all files in the workspace that have one of some names, a search keeps one that differs from a
directory by the fewest components, and of those the first one in the order of the search
(`foldl_nearer_filesOfRoot`, `argmin_candidates_eq_some_iff`).
-/
namespace Classwright

/-! ## Paths that differ -/

namespace Path

variable {as bs : List Component} {n : Nat}

/-- Two paths differ by the components behind the start that they share. -/
def Differ (as bs : List Component) (n : Nat) : Prop :=
  ∃ common as' bs', as = common ++ as' ∧ bs = common ++ bs' ∧ (∀ a ∈ as'.head?, ∀ b ∈ bs'.head?, a ≠ b) ∧
    n = as'.length + bs'.length

theorem treeDistance_append (common as bs : List Component) :
    treeDistance (common ++ as) (common ++ bs) = treeDistance as bs := by
  induction common with
  | nil => rfl
  | cons c common ih => rw [List.cons_append, List.cons_append, treeDistance, if_pos rfl, ih]

theorem treeDistance_of_head_ne (h : ∀ a ∈ as.head?, ∀ b ∈ bs.head?, a ≠ b) : treeDistance as bs = as.length + bs.length := by
  cases as with
  | nil => rw [treeDistance]; simp
  | cons a as =>
    cases bs with
    | nil => rw [treeDistance]; simp
    | cons b bs => rw [treeDistance, if_neg (h a rfl b rfl)]; rfl

theorem exists_fork (as bs : List Component) :
    ∃ common as' bs', as = common ++ as' ∧ bs = common ++ bs' ∧ ∀ a ∈ as'.head?, ∀ b ∈ bs'.head?, a ≠ b := by
  induction as generalizing bs with
  | nil => exact ⟨[], [], bs, rfl, rfl, by simp⟩
  | cons a as ih =>
    cases bs with
    | nil => exact ⟨[], a :: as, [], rfl, rfl, by simp⟩
    | cons b bs =>
      by_cases hab : a = b
      · obtain ⟨common, as', bs', rfl, rfl, hne⟩ := ih bs
        exact ⟨a :: common, as', bs', rfl, by rw [hab]; rfl, hne⟩
      · exact ⟨[], a :: as, b :: bs, rfl, rfl, by simpa using hab⟩

theorem differ_iff : Differ as bs n ↔ treeDistance as bs = n := by
  constructor
  · rintro ⟨common, as, bs, rfl, rfl, hne, rfl⟩
    rw [treeDistance_append, treeDistance_of_head_ne hne]
  · rintro rfl
    obtain ⟨common, as, bs, rfl, rfl, hne⟩ := exists_fork as bs
    exact ⟨common, as, bs, rfl, rfl, hne, by rw [treeDistance_append, treeDistance_of_head_ne hne]⟩

end Path

namespace Counterpart

open FileNode Path

variable {tree : FileTree} {dir root : Path} {roots : List Path} {names : List Text}

/-! ## Places in the workspace -/

/-- A place in the workspace: a root, by its index, and steps from it. -/
structure Place where
  index : Nat
  root : Path
  steps : List FileName
deriving DecidableEq

namespace Place

def path (c : Place) : Path := below c.root c.steps

/-- The order of a search: root after root, and below each in the order of the names on the way. -/
def Before (c d : Place) : Prop := c.index < d.index ∨ c.index = d.index ∧ List.Lex FileName.Lt c.steps d.steps

theorem Before.asymm {c d : Place} (h : c.Before d) : ¬ d.Before c := by
  rintro (hlt | ⟨heq, hlex⟩)
  · rcases h with h | h <;> omega
  · rcases h with h | ⟨-, h⟩
    · omega
    · exact List.lex_asymm (fun hab => List.lt_asymm hab) hlex h

end Place

variable {c d : Place}

/-- The name of a directory that a search goes into: a text, neither hidden nor one of those of directories
that hold no sources. -/
def Searched (name : FileName) : Prop := ∃ t : Text, name = t.toUnits ∧ t.head? ≠ some '.' ∧ t ∉ skippedNames

/-- A file at or below a root that has one of some names. No directory between the root and the file is
passed over. -/
structure Candidate (tree : FileTree) (roots : List Path) (names : List Text) (c : Place) : Prop where
  root : roots[c.index]? = some c.root
  file : ∃ node text, tree.node c.root = .ok node ∧ node.descend c.steps = some (.file text)
  searched : ∀ d ∈ c.steps.dropLast, Searched d
  named : ∃ name ∈ names, c.path.fileName? = some name.toUnits

/-- Of all candidates, one that differs by the fewest components from a directory, the first in the order of
the search. -/
def IsNearest (tree : FileTree) (roots : List Path) (names : List Text) (dir : Path) (c : Place) : Prop :=
  Candidate tree roots names c ∧ ∀ d, Candidate tree roots names d → ∀ m n,
    Differ dir.components c.path.components m → Differ dir.components d.path.components n →
      m < n ∨ m = n ∧ (c = d ∨ c.Before d)

theorem isSearched_iff {name : FileName} : isSearched name = true ↔ Searched name := by
  rw [isSearched, Searched]
  cases ht : text? name with
  | none =>
    refine iff_of_false (by simp) ?_
    rintro ⟨t, rfl, -⟩
    rw [text?_toUnits] at ht
    cases ht
  | some t =>
    rw [text?_eq_some_iff] at ht
    subst ht
    have hdot : Text.startsWith t "." = true ↔ t.head? = some '.' := by
      rw [Text.startsWith_iff]
      cases t with
      | nil => simp
      | cons c t => simp [List.cons_prefix_cons, eq_comm]
    have hinj : ∀ u : Text, t.toUnits = u.toUnits ↔ t = u := fun u =>
      ⟨fun h => by simpa using congrArg text? h, fun h => h ▸ rfl⟩
    simp only [hinj, exists_eq_left', Bool.and_eq_true, Bool.not_eq_true', ← Bool.not_eq_true, hdot, List.contains_iff_mem]

/-! ## The search in the workspace -/

/-- The steps to the files of a root. -/
def stepsOfRoot (tree : FileTree) (root : Path) : List (List FileName) :=
  match tree.node root with
  | .ok node => stepsBelow node
  | .error _ => []

/-- The places of all files that a search visits, in its order. -/
def places (tree : FileTree) (roots : List Path) : List Place :=
  roots.zipIdx.flatMap fun root => (stepsOfRoot tree root.1).map (Place.mk root.2 root.1)

def candidates (tree : FileTree) (roots : List Path) (names : List Text) : List Place :=
  (places tree roots).filter fun c => (text? (lastName c.path)).any names.contains

theorem filesOfRoot_eq_map (tree : FileTree) (root : Path) :
    filesOfRoot tree root = (stepsOfRoot tree root).map (below root) := by
  rw [filesOfRoot, stepsOfRoot]
  cases tree.node root with
  | ok node => exact filesBelow_eq_map root node
  | error e => rfl

theorem flatMap_filesOfRoot (tree : FileTree) (roots : List Path) :
    roots.flatMap (filesOfRoot tree) = (places tree roots).map Place.path := by
  rw [places, List.map_flatMap]
  simp only [List.map_map]
  conv_lhs => rw [← List.zipIdx_map_fst 0 roots, List.flatMap_map]
  exact List.flatMap_congr fun root _ => filesOfRoot_eq_map tree root.1

theorem mem_places_iff : c ∈ places tree roots ↔ roots[c.index]? = some c.root ∧ c.steps ∈ stepsOfRoot tree c.root := by
  obtain ⟨index, root, steps⟩ := c
  simp only [places, List.mem_flatMap, List.mem_map, Place.mk.injEq]
  constructor
  · rintro ⟨⟨r, i⟩, hr, s, hs, rfl, rfl, rfl⟩
    exact ⟨List.mem_zipIdx_iff_getElem?.1 hr, hs⟩
  · rintro ⟨hr, hs⟩
    exact ⟨(root, index), List.mem_zipIdx_iff_getElem?.2 hr, steps, hs, rfl, rfl, rfl⟩

section WellFormed

variable (h : tree.root.WellFormed)
include h

theorem wellFormed_of_node {node : FileNode} (hn : tree.node root = .ok node) : node.WellFormed := by
  simp only [FileTree.node, bind, Except.bind] at hn
  split at hn
  · cases hn
  · split at hn
    · next hd =>
      obtain rfl := Except.ok.inj hn
      exact h.descend hd
    · cases hn

theorem pairwise_places : (places tree roots).Pairwise Place.Before := by
  rw [places, List.pairwise_flatMap]
  constructor
  · rintro ⟨root, index⟩ -
    rw [List.pairwise_map, stepsOfRoot]
    cases hn : tree.node root with
    | ok node => exact (pairwise_stepsBelow (wellFormed_of_node h hn)).imp fun hlex => Or.inr ⟨rfl, hlex⟩
    | error e => exact List.Pairwise.nil
  · have hindex : (roots.zipIdx.map Prod.snd).Pairwise (· < ·) := by
      rw [List.zipIdx_map_snd]
      exact List.pairwise_lt_range' 1
    refine (List.pairwise_map.1 hindex).imp fun hlt c hc d hd => Or.inl ?_
    obtain ⟨_, -, rfl⟩ := List.mem_map.1 hc
    obtain ⟨_, -, rfl⟩ := List.mem_map.1 hd
    exact hlt

/-- A file that a search visits has a last name. -/
theorem exists_fileName?_path {node : FileNode} {text : Option Text} (hn : tree.node c.root = .ok node)
    (hd : node.descend c.steps = some (.file text)) : ∃ name, c.path.fileName? = some name := by
  obtain ⟨index, root, steps⟩ := c
  rcases List.eq_nil_or_concat steps with rfl | ⟨front, last, rfl⟩
  · obtain rfl := Option.some.inj hd
    exact FileTree.exists_fileName?_of_node hn
  · have hstep := (wellFormed_of_node h hn).isStep_of_mem hd last (by simp)
    refine ⟨last, ?_⟩
    rw [Place.path, below, List.concat_eq_append, List.foldl_append]
    exact fileName?_join hstep _

theorem mem_candidates_iff : c ∈ candidates tree roots names ↔ Candidate tree roots names c := by
  have hsteps : c.steps ∈ stepsOfRoot tree c.root ↔
      (∃ node text, tree.node c.root = .ok node ∧ node.descend c.steps = some (.file text)) ∧
        ∀ d ∈ c.steps.dropLast, Searched d := by
    rw [stepsOfRoot]
    cases hn : tree.node c.root with
    | ok node => simp [mem_stepsBelow_iff (wellFormed_of_node h hn), isSearched_iff]
    | error e => simp
  rw [candidates, List.mem_filter, mem_places_iff, hsteps]
  constructor
  · rintro ⟨⟨hroot, ⟨node, text, hn, hd⟩, hs⟩, hname⟩
    obtain ⟨name, hlast⟩ := exists_fileName?_path h hn hd
    simp only [lastName, hlast, Option.getD_some, Option.any_eq_true, List.contains_iff_mem, text?_eq_some_iff] at hname
    obtain ⟨t, rfl, ht⟩ := hname
    exact ⟨hroot, ⟨node, text, hn, hd⟩, hs, t, ht, hlast⟩
  · rintro ⟨hroot, hfile, hs, t, ht, hlast⟩
    refine ⟨⟨hroot, hfile, hs⟩, ?_⟩
    simp [lastName, hlast, ht]

end WellFormed

/-! ## The nearest candidate -/

/-- In a list in a strict order, the first of two members is the lesser one. -/
theorem idxOf_le_iff {α : Type} [DecidableEq α] {R : α → α → Prop} {l : List α} {a b : α} (hl : l.Pairwise R)
    (hasymm : ∀ x y, R x y → ¬ R y x) (ha : a ∈ l) (hb : b ∈ l) : l.idxOf a ≤ l.idxOf b ↔ a = b ∨ R a b := by
  have hlt : ∀ {x y}, x ∈ l → y ∈ l → l.idxOf x < l.idxOf y → R x y := fun {x y} hx hy hxy => by
    have := List.pairwise_iff_getElem.1 hl _ _ (List.idxOf_lt_length_iff.2 hx) (List.idxOf_lt_length_iff.2 hy) hxy
    rwa [List.getElem_idxOf, List.getElem_idxOf] at this
  constructor
  · intro hle
    rcases Nat.lt_or_eq_of_le hle with hab | hab
    · exact Or.inr (hlt ha hb hab)
    · exact Or.inl ((List.idxOf_inj ha).1 hab)
  · rintro (rfl | hab)
    · exact Nat.le_refl _
    · exact Nat.le_of_not_lt fun hba => hasymm a b hab (hlt hb ha hba)

/-- The least of some images is the image of the least one. -/
theorem argmin_map {α β : Type} (g : α → β) (f : β → Nat) (l : List α) : (l.map g).argmin f = (l.argmin (f ∘ g)).map g := by
  induction l with
  | nil => rfl
  | cons a l ih =>
    rw [List.map_cons, List.argmin_cons, List.argmin_cons, ih]
    cases l.argmin (f ∘ g) with
    | none => rfl
    | some c =>
      simp only [Option.map_some, Function.comp_apply]
      split <;> rfl

/-- One pass that keeps the nearer path keeps the first one of the least distance. -/
theorem foldl_nearer (dir : Path) (files : List Path) :
    files.foldl (nearer dir) none = files.argmin fun f => treeDistance dir.components f.components := by
  unfold List.argmin
  congr 1
  funext best f
  cases best <;> rfl

def distance (dir : Path) (c : Place) : Nat := treeDistance dir.components c.path.components

theorem foldl_nearer_filesOfRoot (tree : FileTree) (dir : Path) (roots : List Path) (names : List Text) :
    ((roots.flatMap (filesOfRoot tree)).filter fun f => (text? (lastName f)).any names.contains).foldl (nearer dir) none =
      ((candidates tree roots names).argmin (distance dir)).map Place.path := by
  rw [flatMap_filesOfRoot, List.filter_map, foldl_nearer, argmin_map]
  rfl

/-- **The nearest candidate** is the first one of the least distance. -/
theorem argmin_candidates_eq_some_iff (h : tree.root.WellFormed) :
    (candidates tree roots names).argmin (distance dir) = some c ↔ IsNearest tree roots names dir c := by
  have hsorted : (candidates tree roots names).Pairwise Place.Before := (pairwise_places h).filter _
  rw [List.argmin_eq_some_iff, IsNearest, mem_candidates_iff h]
  refine and_congr_right fun hc => ?_
  have horder : ∀ d, Candidate tree roots names d →
      ((candidates tree roots names).idxOf c ≤ (candidates tree roots names).idxOf d ↔ c = d ∨ c.Before d) := fun d hd =>
    idxOf_le_iff hsorted (fun _ _ => Place.Before.asymm) ((mem_candidates_iff h).2 hc) ((mem_candidates_iff h).2 hd)
  simp only [differ_iff, mem_candidates_iff h]
  constructor
  · rintro ⟨hmin, hfirst⟩ d hd m n rfl rfl
    rcases Nat.lt_or_eq_of_le (hmin d hd) with hlt | heq
    · exact Or.inl hlt
    · exact Or.inr ⟨heq, (horder d hd).1 (hfirst d hd (Nat.le_of_eq heq.symm))⟩
  · intro hnear
    constructor
    · intro d hd
      rcases hnear d hd _ _ rfl rfl with hlt | ⟨heq, -⟩
      · exact Nat.le_of_lt hlt
      · exact Nat.le_of_eq heq
    · intro d hd hle
      rcases hnear d hd _ _ rfl rfl with hlt | ⟨-, hfirst⟩
      · exact absurd hlt (Nat.not_lt_of_le hle)
      · exact (horder d hd).2 hfirst

theorem argmin_candidates_eq_none_iff (h : tree.root.WellFormed) :
    (candidates tree roots names).argmin (distance dir) = none ↔ ∀ c, ¬ Candidate tree roots names c := by
  rw [List.argmin_eq_none, List.eq_nil_iff_forall_not_mem]
  exact forall_congr' fun c => not_congr (mem_candidates_iff h)

end Counterpart
end Classwright
