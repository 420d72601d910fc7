import Mathlib.Data.List.Nodup
import Classwright.Proofs.Symbol.Locate
/-!
# The way down to a class

In an outline whose symbols are nested in each other there is one way down through the symbols around
a range, and the last class on it is the innermost one. The flat list of all classes gives the same
class: those of its members that are around the range are the classes on the way down, each of which
starts behind the one before it (`pairwise_filter_below`), so the last of them is the nearest
(`locate_eq_walkForest`).
-/
namespace Classwright

namespace Symbol

def firstLine (s : Symbol) : Nat := s.range.start.line

def lastLine (s : Symbol) : Nat := s.range.stop.line

/-- The lines of the symbol include the lines of the range; columns do not count. -/
def containsLines (s : Symbol) (r : Range) : Bool := s.firstLine ≤ r.start.line && r.stop.line ≤ s.lastLine

def Apart (s t : Symbol) : Prop := s.lastLine < t.firstLine ∨ t.lastLine < s.firstLine

/-- Everything below the symbol is on its lines, what stands side by side has no line in common, and
a class in a class starts on a later line. -/
inductive Nested : Symbol → Prop
  | node {name : Text} {kind : Int} {range : Range} {children : List Symbol}
      (ordered : range.start.line ≤ range.stop.line)
      (inside : ∀ s ∈ children, range.start.line ≤ s.firstLine ∧ s.lastLine ≤ range.stop.line)
      (apart : children.Pairwise Apart)
      (later : (ClassKind.ofSymbolKind? kind).isSome →
        ∀ c ∈ ClassSymbol.inForest children, range.start.line < c.range.start.line)
      (nested : ∀ s ∈ children, Nested s) : Nested (.node name kind range children)

/-- The symbols of a forest are nested and have no line in common. -/
structure NestedForest (forest : List Symbol) : Prop where
  apart : forest.Pairwise Apart
  nested : ∀ s ∈ forest, s.Nested

theorem containsLines_iff {s : Symbol} {r : Range} :
    s.containsLines r = true ↔ s.firstLine ≤ r.start.line ∧ r.stop.line ≤ s.lastLine := by simp [containsLines]

end Symbol

namespace ClassSymbol

open Symbol

mutual
/-- The last class on the way down from a symbol through the symbols around a range, or else the one
that was met before. -/
def walk (r : Range) (met : Option ClassSymbol) : Symbol → Option ClassSymbol
  | .node name kind range children =>
    walkForest r ((ofSymbol? (.node name kind range children)).or met) children

/-- The last class on the way down through the first symbol of a forest that is around a range. -/
def walkForest (r : Range) (met : Option ClassSymbol) : List Symbol → Option ClassSymbol
  | [] => met
  | s :: rest => if s.containsLines r then walk r met s else walkForest r met rest
end

variable {s : Symbol} {forest : List Symbol} {c : ClassSymbol} {r : Range} {classes : List ClassSymbol}

theorem containsLines_iff : c.containsLines r = true ↔ c.range.start.line ≤ r.start.line ∧ r.stop.line ≤ c.range.stop.line := by
  simp [containsLines]

theorem mem_inForest_iff : c ∈ inForest forest ↔ ∃ s ∈ forest, c ∈ below s := by
  induction forest with
  | nil => simp [inForest]
  | cons s rest ih => simp [inForest, ih]

theorem range_of_mem_ofSymbol? (h : c ∈ (ofSymbol? s).toList) : c.range = s.range := by
  obtain ⟨name, kind, range, children⟩ := s
  rw [Option.mem_toList, ofSymbol?, Option.map_eq_some_iff] at h
  obtain ⟨k, -, rfl⟩ := h
  rfl

/-- The classes at and below a symbol are on its lines. -/
theorem lines_of_mem_below (h : s.Nested) (hc : c ∈ below s) :
    s.firstLine ≤ c.range.start.line ∧ c.range.stop.line ≤ s.lastLine := by
  induction h with
  | @node name kind range children ordered inside apart later nested ih =>
    rw [below, List.mem_append] at hc
    rcases hc with hc | hc
    · rw [range_of_mem_ofSymbol? hc]
      exact ⟨Nat.le_refl _, Nat.le_refl _⟩
    · obtain ⟨s, hs, hc⟩ := mem_inForest_iff.1 hc
      obtain ⟨h1, h2⟩ := inside s hs
      obtain ⟨h3, h4⟩ := ih s hs hc
      exact ⟨Nat.le_trans h1 h3, Nat.le_trans h4 h2⟩

/-- A class is around a range only when the symbols above it are. -/
theorem containsLines_of_mem_below (h : s.Nested) (hc : c ∈ below s) (hr : c.containsLines r = true) :
    s.containsLines r = true := by
  obtain ⟨h1, h2⟩ := lines_of_mem_below h hc
  obtain ⟨h3, h4⟩ := containsLines_iff.1 hr
  exact Symbol.containsLines_iff.2 ⟨Nat.le_trans h1 h3, Nat.le_trans h4 h2⟩

theorem filter_below_eq_nil (h : s.Nested) (hs : s.containsLines r = false) :
    (below s).filter (·.containsLines r) = [] := by
  rw [List.filter_eq_nil_iff]
  intro c hc hr
  rw [containsLines_of_mem_below h hc hr] at hs
  cases hs

/-- Of symbols without a common line only one is around a range. -/
theorem containsLines_of_apart {t : Symbol} (ht : s.Apart t) (hr : r.start.line ≤ r.stop.line)
    (hs : s.containsLines r = true) : t.containsLines r = false := by
  rw [Bool.eq_false_iff]
  intro h
  rw [Symbol.containsLines_iff] at h hs
  unfold Symbol.Apart at ht
  omega

/-! ## The classes around a range -/

/-- The classes of a forest around a range are those below the one symbol that is around it. -/
theorem filter_inForest (h : NestedForest forest) (hr : r.start.line ≤ r.stop.line) :
    (inForest forest).filter (·.containsLines r) =
      ((forest.find? (·.containsLines r)).map fun s => (below s).filter (·.containsLines r)).getD [] := by
  induction forest with
  | nil => rfl
  | cons s rest ih =>
    obtain ⟨hapart, hrest⟩ := List.pairwise_cons.1 h.apart
    rw [inForest, List.filter_append]
    cases hs : s.containsLines r with
    | true =>
      have hnone : (inForest rest).filter (·.containsLines r) = [] := by
        rw [List.filter_eq_nil_iff]
        intro c hc hcr
        obtain ⟨t, ht, hc⟩ := mem_inForest_iff.1 hc
        have hfalse := containsLines_of_apart (hapart t ht) hr hs
        rw [containsLines_of_mem_below (h.nested t (by simp [ht])) hc hcr] at hfalse
        cases hfalse
      rw [hnone, List.append_nil, List.find?_cons_of_pos (by exact hs)]
      rfl
    | false =>
      rw [filter_below_eq_nil (h.nested s (by simp)) hs, List.nil_append, List.find?_cons_of_neg (by simp [hs])]
      exact ih ⟨hrest, fun t ht => h.nested t (by simp [ht])⟩

/-- The way down goes on at the one symbol that is around the range. -/
theorem walkForest_eq (r : Range) (met : Option ClassSymbol) (forest : List Symbol) :
    walkForest r met forest = ((forest.find? (·.containsLines r)).map (walk r met)).getD met := by
  induction forest with
  | nil => rfl
  | cons s rest ih =>
    rw [walkForest]
    cases hs : s.containsLines r with
    | true => rw [List.find?_cons_of_pos (by exact hs)]; rfl
    | false => rw [List.find?_cons_of_neg (by simp [hs])]; exact ih

theorem filter_below_node {name : Text} {kind : Int} {range : Range} {children : List Symbol}
    (hr : Symbol.containsLines (.node name kind range children) r = true) :
    (below (.node name kind range children)).filter (·.containsLines r) =
      (ofSymbol? (.node name kind range children)).toList ++ (inForest children).filter (·.containsLines r) := by
  rw [below, List.filter_append]
  congr 1
  rw [List.filter_eq_self]
  intro c hc
  have hrange : c.range = range := range_of_mem_ofSymbol? hc
  rw [containsLines_iff, hrange]
  exact Symbol.containsLines_iff.1 hr

theorem pairwise_toList (o : Option ClassSymbol) (R : ClassSymbol → ClassSymbol → Prop) : o.toList.Pairwise R := by
  cases o with
  | none => exact List.Pairwise.nil
  | some c => exact List.pairwise_singleton R c

/-- **The classes around a range** start one behind the other, the outer one first. -/
theorem pairwise_filter_below (h : s.Nested) (hr : r.start.line ≤ r.stop.line) :
    ((below s).filter (·.containsLines r)).Pairwise fun a b => a.range.start.line < b.range.start.line := by
  induction h with
  | @node name kind range children ordered inside apart later nested ih =>
    cases hs : Symbol.containsLines (.node name kind range children) r with
    | false =>
      rw [filter_below_eq_nil (.node ordered inside apart later nested) hs]
      exact List.Pairwise.nil
    | true =>
      rw [filter_below_node hs, List.pairwise_append]
      refine ⟨pairwise_toList .., ?_, ?_⟩
      · rw [filter_inForest ⟨apart, nested⟩ hr]
        cases hfind : children.find? (·.containsLines r) with
        | none => exact List.Pairwise.nil
        | some child => exact ih child (List.mem_of_find?_eq_some hfind)
      · -- the symbol is a class here, and the others are in it
        intro a ha b hb
        have hclass : (ClassKind.ofSymbolKind? kind).isSome := by
          rw [Option.mem_toList, ofSymbol?, Option.map_eq_some_iff] at ha
          obtain ⟨k, hk, -⟩ := ha
          simp [hk]
        rw [range_of_mem_ofSymbol? ha]
        exact later hclass b (List.mem_filter.1 hb).1

/-- The way down ends at the last class around the range. -/
theorem walk_eq_getLast? (h : s.Nested) (hr : r.start.line ≤ r.stop.line) (hs : s.containsLines r = true)
    (met : Option ClassSymbol) : walk r met s = ((below s).filter (·.containsLines r)).getLast?.or met := by
  induction h generalizing met with
  | @node name kind range children ordered inside apart later nested ih =>
    rw [walk, walkForest_eq, filter_below_node hs, filter_inForest ⟨apart, nested⟩ hr, List.getLast?_append]
    cases hfind : children.find? (·.containsLines r) with
    | none => cases ofSymbol? (.node name kind range children) <;> rfl
    | some child =>
      have hchild : child.containsLines r = true := by simpa using List.find?_some hfind
      have hwalk := ih child (List.mem_of_find?_eq_some hfind) hchild
      simp only [Option.map_some, Option.getD_some, hwalk]
      cases ((below child).filter (·.containsLines r)).getLast? with
      | none => cases ofSymbol? (.node name kind range children) <;> rfl
      | some c => rfl

theorem walkForest_eq_getLast? (h : NestedForest forest) (hr : r.start.line ≤ r.stop.line) :
    walkForest r none forest = ((inForest forest).filter (·.containsLines r)).getLast? := by
  rw [walkForest_eq, filter_inForest h hr]
  cases hfind : forest.find? (·.containsLines r) with
  | none => rfl
  | some s =>
    have hs : s.containsLines r = true := by simpa using List.find?_some hfind
    simp [walk_eq_getLast? (h.nested s (List.mem_of_find?_eq_some hfind)) hr hs]

theorem pairwise_filter_inForest (h : NestedForest forest) (hr : r.start.line ≤ r.stop.line) :
    ((inForest forest).filter (·.containsLines r)).Pairwise fun a b => a.range.start.line < b.range.start.line := by
  rw [filter_inForest h hr]
  cases hfind : forest.find? (·.containsLines r) with
  | none => exact List.Pairwise.nil
  | some s => exact pairwise_filter_below (h.nested s (List.mem_of_find?_eq_some hfind)) hr

/-! ## The nearest class -/

/-- Lines are counted down to the range from a class around it, so nothing is cut off. -/
theorem distance_add (h : c.containsLines r = true) : c.distance r + c.range.start.line = r.start.line :=
  Nat.sub_add_cancel (containsLines_iff.1 h).1

/-- Among classes that start one behind the other the last one is the nearest. -/
theorem foldl_nearer_of_pairwise (hr : ∀ c ∈ classes, c.containsLines r = true)
    (h : classes.Pairwise fun a b => a.range.start.line < b.range.start.line) :
    classes.foldl (nearer r) none = classes.getLast? := by
  have hfold : ∀ (b : ClassSymbol) (classes : List ClassSymbol), (∀ c ∈ b :: classes, c.containsLines r = true) →
      (b :: classes).Pairwise (fun a b => a.range.start.line < b.range.start.line) →
      classes.foldl (nearer r) (some b) = (b :: classes).getLast? := by
    intro b classes
    induction classes generalizing b with
    | nil => exact fun _ _ => rfl
    | cons c rest ih =>
      intro hr h
      obtain ⟨hb, hrest⟩ := List.pairwise_cons.1 h
      have hcloser : c.distance r < b.distance r := by
        have h1 := distance_add (hr b (by simp))
        have h2 := distance_add (hr c (by simp))
        have h3 := hb c (by simp)
        omega
      rw [List.foldl_cons, nearer, if_pos hcloser, ih c (fun d hd => hr d (by simp [hd])) hrest, List.getLast?_cons_cons]
  cases classes with
  | nil => rfl
  | cons b rest => exact hfold b rest hr h

/-- Classes that are nearest to a range at the same time start on the same line. -/
theorem eq_of_nearest {d : ClassSymbol}
    (h : (classes.filter (·.containsLines r)).Pairwise fun a b => a.range.start.line < b.range.start.line)
    (hc : c ∈ classes) (hd : d ∈ classes) (hcn : nearest classes r c = true) (hdn : nearest classes r d = true) : c = d := by
  simp only [nearest, least, Bool.and_eq_true, List.all_eq_true, decide_eq_true_eq] at hcn hdn
  have hcr : c ∈ classes.filter (·.containsLines r) := List.mem_filter.2 ⟨hc, hcn.1⟩
  have hdr : d ∈ classes.filter (·.containsLines r) := List.mem_filter.2 ⟨hd, hdn.1⟩
  have hnodup : ((classes.filter (·.containsLines r)).map fun a => a.range.start.line).Nodup :=
    List.pairwise_map.2 (h.imp fun hlt => Nat.ne_of_lt hlt)
  have hsame : c.range.start.line = d.range.start.line := by
    have h1 := distance_add hcn.1
    have h2 := distance_add hdn.1
    have h3 := hcn.2 d hdr
    have h4 := hdn.2 c hcr
    omega
  exact List.inj_on_of_nodup_map hnodup hcr hdr hsame

/-- The order of the list does not matter when no two classes are nearest. -/
theorem locate_of_perm {classes' : List ClassSymbol} (hp : classes'.Perm classes)
    (h : (classes.filter (·.containsLines r)).Pairwise fun a b => a.range.start.line < b.range.start.line) :
    locate classes' r = locate classes r := by
  have hnearest : nearest classes' r = nearest classes r := by
    funext c
    rw [nearest, nearest, least, least, (hp.filter _).all_eq]
  rw [locate_eq_find?, locate_eq_find?, hnearest]
  cases hfind : classes.find? (nearest classes r) with
  | none =>
    rw [List.find?_eq_none] at hfind ⊢
    exact fun c hc => hfind c (hp.subset hc)
  | some c =>
    have hc := List.mem_of_find?_eq_some hfind
    have hcn : nearest classes r c = true := List.find?_some hfind
    cases hfind' : classes'.find? (nearest classes r) with
    | none =>
      rw [List.find?_eq_none] at hfind'
      exact absurd hcn (hfind' c (hp.symm.subset hc))
    | some d =>
      have hd := hp.subset (List.mem_of_find?_eq_some hfind')
      rw [eq_of_nearest h hd hc (List.find?_some hfind') hcn]

/-- **The class located in the list of all classes** is the last one on the way down through the
symbols around the range, there is none just when no class is around the range, and neither the order
of the list nor a difference of lines can change that. -/
theorem locate_eq_walkForest (h : NestedForest forest) (hr : r.start.line ≤ r.stop.line) :
    locate (inForest forest) r = walkForest r none forest ∧
      (locate (inForest forest) r = none ↔ ∀ c ∈ inForest forest, c.containsLines r = false) ∧
      (∀ classes, classes.Perm (inForest forest) → locate classes r = locate (inForest forest) r) ∧
      ∀ c ∈ inForest forest, c.containsLines r = true → c.distance r + c.range.start.line = r.start.line := by
  have hpairs := pairwise_filter_inForest h hr
  have hlast : locate (inForest forest) r = ((inForest forest).filter (·.containsLines r)).getLast? :=
    foldl_nearer_of_pairwise (fun c hc => (List.mem_filter.1 hc).2) hpairs
  refine ⟨hlast.trans (walkForest_eq_getLast? h hr).symm, ?_, fun classes hp => locate_of_perm hp hpairs,
    fun c _ hc => distance_add hc⟩
  rw [hlast, List.getLast?_eq_none_iff, List.filter_eq_nil_iff]
  simp only [Bool.not_eq_true]

/-- A struct that is declared in a method of a class, which itself is in a namespace. -/
def pen : ClassSymbol := ⟨"Pen", .structType, ⟨⟨5, 4⟩, ⟨8, 5⟩⟩, []⟩

def canvasOutline : List Symbol :=
  [.node "ui" 3 ⟨⟨0, 0⟩, ⟨20, 1⟩⟩
      [.node "Canvas" 5 ⟨⟨2, 0⟩, ⟨15, 1⟩⟩
        [.node "draw" 6 ⟨⟨4, 2⟩, ⟨9, 3⟩⟩ [.node "Pen" 23 ⟨⟨5, 4⟩, ⟨8, 5⟩⟩ []],
          .node "Style" 5 ⟨⟨11, 2⟩, ⟨13, 3⟩⟩ []]],
    .node "Frame" 5 ⟨⟨22, 0⟩, ⟨30, 1⟩⟩ []]

theorem nestedForest_canvasOutline : Symbol.NestedForest canvasOutline := by
  have leaf : ∀ (name : Text) (kind : Int) (range : Range), range.start.line ≤ range.stop.line →
      Symbol.Nested (.node name kind range []) := fun _ _ _ h => .node h (by simp) (by simp) (by simp [inForest]) (by simp)
  have hpen := leaf "Pen" 23 ⟨⟨5, 4⟩, ⟨8, 5⟩⟩ (by decide)
  have hdraw : Symbol.Nested (.node "draw" 6 ⟨⟨4, 2⟩, ⟨9, 3⟩⟩ [.node "Pen" 23 ⟨⟨5, 4⟩, ⟨8, 5⟩⟩ []]) :=
    .node (by decide) (by simp [Symbol.firstLine, Symbol.lastLine, Symbol.range]) (by simp) (by decide) (by simpa using hpen)
  refine ⟨by simp [canvasOutline, Symbol.Apart, Symbol.firstLine, Symbol.lastLine, Symbol.range], ?_⟩
  simp only [canvasOutline, List.forall_mem_cons, List.not_mem_nil, false_imp_iff, implies_true, and_true]
  refine ⟨.node (by decide) ?_ (by simp) (by decide) ?_, leaf _ _ _ (by decide)⟩
  · simp [Symbol.firstLine, Symbol.lastLine, Symbol.range]
  · simp only [List.forall_mem_cons, List.not_mem_nil, false_imp_iff, implies_true, and_true]
    refine .node (by decide) ?_ ?_ ?_ ?_
    · simp [Symbol.firstLine, Symbol.lastLine, Symbol.range]
    · simp [Symbol.Apart, Symbol.firstLine, Symbol.lastLine, Symbol.range]
    · simp [inForest, below, ofSymbol?, ClassKind.ofSymbolKind?]
    · simpa using ⟨hdraw, leaf "Style" 5 ⟨⟨11, 2⟩, ⟨13, 3⟩⟩ (by decide)⟩

theorem locate_eq_walkForest_canvas : Symbol.NestedForest canvasOutline ∧ 6 ≤ 7 ∧
    locate (inForest canvasOutline) ⟨⟨6, 0⟩, ⟨7, 0⟩⟩ = some pen :=
  ⟨nestedForest_canvasOutline, by decide, (locate_eq_walkForest nestedForest_canvasOutline (by decide)).1.trans rfl⟩

end ClassSymbol
end Classwright
