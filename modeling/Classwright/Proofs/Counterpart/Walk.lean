import Mathlib.Data.List.Lex
import Mathlib.Tactic.Common
import Classwright.Counterpart
import Classwright.Proofs.FileTree
import Classwright.Proofs.Path.Normal
/-!
# The files that a search visits

A directory is searched by its entries, which are in the order of their names. The files at and below
a node are found by steps from it, none of them into a directory that is passed over
(`mem_stepsBelow_iff`), and they come in the order of their steps, name by name (`pairwise_stepsBelow`).
-/
namespace Classwright

/-! ## Well-formed directories -/

/-- Names are ordered by their bytes. -/
def FileName.Lt (a b : FileName) : Prop := a.bytes < b.bytes

theorem FileName.lt_irrefl (name : FileName) : ¬ name.Lt name := List.lt_irrefl _

instance (a b : FileName) : Decidable (a.Lt b) := inferInstanceAs (Decidable (a.bytes < b.bytes))

instance (name : FileName) : Decidable (Component.name name).IsStep :=
  inferInstanceAs (Decidable (name ≠ [] ∧ name ≠ Path.dot ∧ name ≠ Path.dotDot ∧ Path.slash ∉ name))

namespace FileNode

/-- The entries of each directory are in the order of their names, and no name is there twice. Their names
are those that a path can have. -/
inductive WellFormed : FileNode → Prop
  | file (text : Option Text) : WellFormed (.file text)
  | dir {entries : List (FileName × FileNode)} : entries.Pairwise (fun a b => a.1.Lt b.1) →
      (∀ e ∈ entries, (Component.name e.1).IsStep) → (∀ e ∈ entries, WellFormed e.2) → WellFormed (.dir entries)

variable {node next : FileNode} {entries : List (FileName × FileNode)} {name : FileName} {names : List FileName}

theorem wellFormed_dir_iff : (dir entries).WellFormed ↔ entries.Pairwise (fun a b => a.1.Lt b.1) ∧
    (∀ e ∈ entries, (Component.name e.1).IsStep) ∧ ∀ e ∈ entries, e.2.WellFormed := by
  constructor
  · rintro (_ | ⟨hsorted, hnames, hbelow⟩)
    exact ⟨hsorted, hnames, hbelow⟩
  · rintro ⟨hsorted, hnames, hbelow⟩
    exact .dir hsorted hnames hbelow

mutual
/-- Whether a tree is well formed can be checked. -/
def decidableWellFormed : (node : FileNode) → Decidable node.WellFormed
  | .file text => isTrue (.file text)
  | .dir entries =>
    haveI := decidableEntries entries
    decidable_of_iff' _ wellFormed_dir_iff

/-- Whether all entries are well formed can be checked. -/
def decidableEntries : (entries : List (FileName × FileNode)) → Decidable (∀ e ∈ entries, e.2.WellFormed)
  | [] => isTrue (by simp)
  | e :: rest =>
    haveI := decidableWellFormed e.2
    haveI := decidableEntries rest
    decidable_of_iff' _ List.forall_mem_cons
end

instance : DecidablePred WellFormed := decidableWellFormed

/-- In a sorted directory a name leads to the entry that has it. -/
theorem lookup_eq_some_iff_mem (h : entries.Pairwise fun a b => a.1.Lt b.1) :
    entries.lookup name = some node ↔ (name, node) ∈ entries := by
  induction entries with
  | nil => simp
  | cons e rest ih =>
    obtain ⟨n, other⟩ := e
    obtain ⟨hfirst, hrest⟩ := List.pairwise_cons.1 h
    by_cases hn : name = n
    · subst hn
      rw [List.lookup_cons_self, List.mem_cons, Option.some.injEq, Prod.mk.injEq]
      constructor
      · rintro rfl
        exact Or.inl ⟨rfl, rfl⟩
      · rintro (⟨-, rfl⟩ | hm)
        · rfl
        · exact absurd (hfirst _ hm) name.lt_irrefl
    · rw [lookup_cons_of_ne hn, ih hrest, List.mem_cons, Prod.mk.injEq]
      simp [hn]

theorem WellFormed.descend (h : node.WellFormed) (hd : node.descend names = some next) : next.WellFormed := by
  induction names generalizing node with
  | nil =>
    obtain rfl := Option.some.inj hd
    exact h
  | cons name rest ih =>
    rw [descend_cons, Option.bind_eq_some_iff] at hd
    obtain ⟨child, hchild, hd⟩ := hd
    cases h with
    | file text => cases hchild
    | dir hsorted hnames hbelow =>
      exact ih (hbelow _ ((lookup_eq_some_iff_mem hsorted).1 hchild)) hd

/-- What is below a well-formed node has names that a path can have. -/
theorem WellFormed.isStep_of_mem (h : node.WellFormed) (hd : node.descend names = some next) :
    ∀ name ∈ names, (Component.name name).IsStep := by
  induction names generalizing node with
  | nil => simp
  | cons name rest ih =>
    rw [descend_cons, Option.bind_eq_some_iff] at hd
    obtain ⟨child, hchild, hd⟩ := hd
    cases h with
    | file text => cases hchild
    | dir hsorted hnames hbelow =>
      have hm := (lookup_eq_some_iff_mem hsorted).1 hchild
      exact List.forall_mem_cons.2 ⟨hnames _ hm, ih (hbelow _ hm) hd⟩

end FileNode

namespace Counterpart

open FileNode

variable {node next : FileNode} {entries : List (FileName × FileNode)} {path : Path} {s : List FileName}

/-! ## Files by the steps to them -/

mutual
/-- The steps to the files at and below a node, in the order of the search. -/
def stepsBelow : FileNode → List (List FileName)
  | .file _ => [[]]
  | .dir entries => stepsIn entries

/-- The steps to the files below the entries of a directory. -/
def stepsIn : List (FileName × FileNode) → List (List FileName)
  | [] => []
  | (name, node) :: rest =>
    (if node.isFile || isSearched name then (stepsBelow node).map (name :: ·) else []) ++ stepsIn rest
end

def below (path : Path) (steps : List FileName) : Path := steps.foldl (fun p name => p.join ⟨name⟩) path

mutual
theorem filesBelow_eq_map (path : Path) : (node : FileNode) → filesBelow path node = (stepsBelow node).map (below path)
  | .file _ => rfl
  | .dir entries => filesIn_eq_map path entries

theorem filesIn_eq_map (path : Path) :
    (entries : List (FileName × FileNode)) → filesIn path entries = (stepsIn entries).map (below path)
  | [] => rfl
  | (name, node) :: rest => by
    rw [filesIn, stepsIn, List.map_append, filesIn_eq_map path rest]
    split
    · rw [filesBelow_eq_map _ node, List.map_map]
      rfl
    · rfl
end

theorem mem_stepsIn_iff : s ∈ stepsIn entries ↔
    ∃ name node s', (name, node) ∈ entries ∧ (node.isFile = true ∨ isSearched name = true) ∧ s' ∈ stepsBelow node ∧
      s = name :: s' := by
  induction entries with
  | nil => simp [stepsIn]
  | cons e rest ih =>
    obtain ⟨n, node⟩ := e
    rw [stepsIn, List.mem_append, ih]
    constructor
    · rintro (h | ⟨name, node', s', hm, h⟩)
      · split at h
        · next hs =>
          obtain ⟨s', hs', rfl⟩ := List.mem_map.1 h
          exact ⟨n, node, s', by simp, by simpa using hs, hs', rfl⟩
        · cases h
      · exact ⟨name, node', s', List.mem_cons_of_mem _ hm, h⟩
    · rintro ⟨name, node', s', hm, hs, hs', rfl⟩
      rcases List.mem_cons.1 hm with heq | hm
      · cases heq
        rw [if_pos (by simpa using hs)]
        exact Or.inl (List.mem_map_of_mem hs')
      · exact Or.inr ⟨name, node', s', hm, hs, hs', rfl⟩

/-- **The files that a search visits** are those that steps lead to without a directory that is passed over. -/
theorem mem_stepsBelow_iff (h : node.WellFormed) :
    s ∈ stepsBelow node ↔ (∃ text, node.descend s = some (.file text)) ∧ ∀ d ∈ s.dropLast, isSearched d = true := by
  induction h generalizing s with
  | file text =>
    cases s with
    | nil => simp [stepsBelow, descend]
    | cons name s => simp [stepsBelow, descend_cons, child?]
  | @dir entries hsorted _ hbelow ih =>
    rw [stepsBelow, mem_stepsIn_iff]
    constructor
    · rintro ⟨name, node, s', hm, hs, hs', rfl⟩
      obtain ⟨⟨text, hd⟩, hp⟩ := (ih _ hm).1 hs'
      refine ⟨⟨text, ?_⟩, ?_⟩
      · rw [descend_cons, child?, (lookup_eq_some_iff_mem hsorted).2 hm]
        exact hd
      · cases s' with
        | nil => simp
        | cons d rest =>
          -- a file has nothing below it
          have hdir : node.isFile = false := by
            cases node with
            | file _ => cases hd
            | dir _ => rfl
          rw [List.dropLast_cons_of_ne_nil (List.cons_ne_nil d rest), List.forall_mem_cons]
          exact ⟨by simpa [hdir] using hs, hp⟩
    · rintro ⟨⟨text, hd⟩, hp⟩
      cases s with
      | nil => cases hd
      | cons name s' =>
        rw [descend_cons, Option.bind_eq_some_iff] at hd
        obtain ⟨node, hchild, hd⟩ := hd
        have hm := (lookup_eq_some_iff_mem hsorted).1 hchild
        cases s' with
        | nil =>
          obtain rfl := Option.some.inj hd
          exact ⟨name, _, [], hm, Or.inl rfl, by simp [stepsBelow], rfl⟩
        | cons d rest =>
          rw [List.dropLast_cons_of_ne_nil (List.cons_ne_nil d rest), List.forall_mem_cons] at hp
          exact ⟨name, node, d :: rest, hm, Or.inr hp.1, (ih _ hm).2 ⟨⟨text, hd⟩, hp.2⟩, rfl⟩

theorem pairwise_stepsIn (hsorted : entries.Pairwise fun a b => a.1.Lt b.1)
    (h : ∀ e ∈ entries, (stepsBelow e.2).Pairwise (List.Lex FileName.Lt)) :
    (stepsIn entries).Pairwise (List.Lex FileName.Lt) := by
  induction entries with
  | nil => exact List.Pairwise.nil
  | cons e rest ih =>
    obtain ⟨name, node⟩ := e
    obtain ⟨hfirst, hrest⟩ := List.pairwise_cons.1 hsorted
    obtain ⟨hnode, hnodes⟩ := List.forall_mem_cons.1 h
    rw [stepsIn, List.pairwise_append]
    refine ⟨?_, ih hrest hnodes, fun a ha b hb => ?_⟩
    · split
      · exact List.pairwise_map.2 (hnode.imp List.Lex.cons)
      · exact List.Pairwise.nil
    · obtain ⟨other, _, _, hm, -, -, rfl⟩ := mem_stepsIn_iff.1 hb
      split at ha
      · obtain ⟨a, -, rfl⟩ := List.mem_map.1 ha
        exact .rel (hfirst _ hm)
      · cases ha

/-- **The order of a search** is that of the names on the way, from the first one on. -/
theorem pairwise_stepsBelow (h : node.WellFormed) : (stepsBelow node).Pairwise (List.Lex FileName.Lt) := by
  induction h with
  | file text => exact List.pairwise_singleton ..
  | dir hsorted _ _ ih => exact pairwise_stepsIn hsorted ih

end Counterpart
end Classwright
