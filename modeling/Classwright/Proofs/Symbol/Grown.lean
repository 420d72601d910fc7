import Classwright.Proofs.Symbol.Locate
/-!
# Adding to a class of an outline

A class of an outline is addressed by its place among all classes. Symbols that are added to it, none
of which is a class, are seen at that place only (`shell_inForest_grow`): all other classes keep their
place, their lines and what is right below them.
-/
namespace Classwright

namespace Symbol

/-- The symbol without what is below it. -/
def leaf (s : Symbol) : Symbol := .node s.name s.kind s.range []

def method (name : Text) (range : Range) : Symbol := .node name methodKind range []

mutual
/-- A symbol with more symbols in one of its classes, which is given by its place. -/
def grow (more : List Symbol) : Symbol → Nat → Symbol
  | .node name kind range children, n =>
    match ClassKind.ofSymbolKind? kind, n with
    | some _, 0 => .node name kind range (children ++ more)
    | some _, n + 1 => .node name kind range (growForest more children n)
    | none, n => .node name kind range (growForest more children n)

def growForest (more : List Symbol) : List Symbol → Nat → List Symbol
  | [], _ => []
  | s :: rest, n =>
    if n < (ClassSymbol.below s).length then grow more s n :: rest
    else s :: growForest more rest (n - (ClassSymbol.below s).length)
end

variable {more : List Symbol}

theorem leaf_grow (s : Symbol) (n : Nat) : (grow more s n).leaf = s.leaf := by
  obtain ⟨name, kind, range, children⟩ := s
  unfold grow
  split <;> rfl

theorem leaf_growForest (ss : List Symbol) (n : Nat) : (growForest more ss n).map leaf = ss.map leaf := by
  induction ss generalizing n with
  | nil => rfl
  | cons s rest ih =>
    rw [growForest]
    split
    · rw [List.map_cons, List.map_cons, leaf_grow]
    · rw [List.map_cons, List.map_cons, ih]

end Symbol

namespace ClassSymbol

open Symbol

/-- The class with nothing below its children. -/
def shell (c : ClassSymbol) : ClassSymbol := { c with children := c.children.map leaf }

def withMore (more : List Symbol) (c : ClassSymbol) : ClassSymbol := { c with children := c.children ++ more }

theorem hasMethod_shell (c : ClassSymbol) (name : Text) : c.shell.hasMethod name = c.hasMethod name := by
  rw [hasMethod, hasMethod, shell, List.any_map]
  rfl

theorem inForest_append (ss ts : List Symbol) : inForest (ss ++ ts) = inForest ss ++ inForest ts := by
  induction ss with
  | nil => rfl
  | cons s rest ih => rw [List.cons_append, inForest, inForest, ih, List.append_assoc]

theorem shell_withMore (more : List Symbol) (c : ClassSymbol) : (c.withMore more).shell = c.shell.withMore (more.map leaf) := by
  simp [shell, withMore]

theorem modify_append (f : α → α) (l l' : List α) (n : Nat) : (l ++ l').modify n f =
    if n < l.length then l.modify n f ++ l' else l ++ l'.modify (n - l.length) f := by
  induction l generalizing n with
  | nil => simp
  | cons a l ih =>
    cases n with
    | zero => simp
    | succ n =>
      simp only [List.cons_append, List.modify_succ_cons, ih, List.length_cons, Nat.add_lt_add_iff_right,
        Nat.add_sub_add_right]
      split <;> rfl

variable {more : List Symbol}

mutual
theorem shell_below_grow (hmore : inForest more = []) : ∀ (s : Symbol) (n : Nat), n < (below s).length →
    (below (grow more s n)).map shell = ((below s).map shell).modify n (withMore (more.map leaf))
  | .node name kind range children, n, _ => by
    have ih := shell_inForest_grow hmore children
    cases hk : ClassKind.ofSymbolKind? kind with
    | none => simp [grow, below, ofSymbol?, hk, ih]
    | some k =>
      cases n with
      | zero => simp [grow, below, ofSymbol?, hk, inForest_append, hmore, shell, withMore]
      | succ n => simp [grow, below, ofSymbol?, hk, ih, shell, leaf_growForest]

/-- **The classes of a grown forest** are those of the forest, one of them with more children. -/
theorem shell_inForest_grow (hmore : inForest more = []) : ∀ (ss : List Symbol) (n : Nat),
    (inForest (growForest more ss n)).map shell = ((inForest ss).map shell).modify n (withMore (more.map leaf))
  | [], n => by simp [growForest, inForest]
  | s :: rest, n => by
    have ih := shell_inForest_grow hmore rest
    rw [growForest, inForest, List.map_append, modify_append, List.length_map]
    split
    · rename_i hn
      rw [inForest, List.map_append, shell_below_grow hmore s n hn]
    · rw [inForest, List.map_append, ih]
end

/-- Growing changes nothing about where a class is located. -/
theorem place?_growForest (hmore : inForest more = []) (ss : List Symbol) (n : Nat) (r : Range) :
    place? (inForest (growForest more ss n)) r = place? (inForest ss) r := by
  have hshell : ∀ cs : List ClassSymbol, cs.map range = (cs.map shell).map range := fun cs => by
    rw [List.map_map]
    rfl
  refine place?_congr ?_
  rw [hshell, shell_inForest_grow hmore, hshell (inForest ss)]
  refine List.ext_getElem? fun i => ?_
  simp only [List.getElem?_map, List.getElem?_modify, Option.map_eq_map, Option.map_map]
  congr 1
  funext c
  by_cases hi : n = i <;> simp [hi, withMore]

/-- The class in the place that is grown has the new children. -/
theorem exists_getElem?_growForest (hmore : inForest more = []) {ss : List Symbol} {n : Nat} {c : ClassSymbol}
    (hc : (inForest ss)[n]? = some c) :
    ∃ c', (inForest (growForest more ss n))[n]? = some c' ∧ c'.shell = (c.withMore more).shell := by
  have hshell : ((inForest (growForest more ss n))[n]?).map shell = some ((c.withMore more).shell) := by
    rw [← List.getElem?_map, shell_inForest_grow hmore, List.getElem?_modify_eq, List.getElem?_map, hc, shell_withMore]
    rfl
  exact Option.map_eq_some_iff.1 hshell

end ClassSymbol
end Classwright
