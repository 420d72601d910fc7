import Classwright.Symbol
/-!
# Locating a class

The class around a range is found by one pass over all classes. It is the first of those around the
range that start nearest above it (`locate_eq_find?`), so it depends on nothing but where classes are
(`place?_congr`).
-/
namespace Classwright.ClassSymbol

variable {classes : List ClassSymbol} {c : ClassSymbol} {r : Range}

/-- None of the classes starts nearer above the range. -/
def least (classes : List ClassSymbol) (r : Range) (c : ClassSymbol) : Bool :=
  classes.all fun d => decide (c.distance r ≤ d.distance r)

/-- The class is around the range, and none of the classes around it starts nearer. -/
def nearest (classes : List ClassSymbol) (r : Range) (c : ClassSymbol) : Bool :=
  c.containsLines r && least (classes.filter (·.containsLines r)) r c

def place? (classes : List ClassSymbol) (r : Range) : Option Nat := classes.findIdx? (nearest classes r)

theorem least_cons {b : ClassSymbol} : least (b :: classes) r c = true ↔ c.distance r ≤ b.distance r ∧ least classes r c = true := by
  simp [least]

/-- One pass keeps the first class of the least distance. -/
theorem foldl_nearer (r : Range) (classes : List ClassSymbol) (b : ClassSymbol) :
    classes.foldl (nearer r) (some b) = (b :: classes).find? (least (b :: classes) r) := by
  induction classes generalizing b with
  | nil => simp [least]
  | cons d rest ih =>
    rw [List.foldl_cons, nearer]
    by_cases hd : d.distance r < b.distance r
    · rw [if_pos hd, ih, List.find?_cons_of_neg (a := b)]
      · have hagree : ∀ c, least (b :: d :: rest) r c = least (d :: rest) r c := fun c => by
          rw [Bool.eq_iff_iff, least_cons, least_cons]
          exact ⟨And.right, fun h => ⟨Nat.le_trans h.1 (Nat.le_of_lt hd), h⟩⟩
        rw [funext hagree]
      · rw [least_cons, least_cons]
        exact fun h => Nat.not_lt.2 h.2.1 hd
    · have hagree : ∀ c, least (b :: d :: rest) r c = least (b :: rest) r c := fun c => by
        rw [Bool.eq_iff_iff, least_cons, least_cons, least_cons]
        exact ⟨fun h => ⟨h.1, h.2.2⟩, fun h => ⟨h.1, Nat.le_trans h.1 (Nat.not_lt.1 hd), h.2⟩⟩
      rw [if_neg hd, ih, funext hagree, List.find?_cons, List.find?_cons (a := b)]
      cases hb : least (b :: rest) r b with
      | true => rfl
      | false =>
        rw [List.find?_cons_of_neg]
        intro hleast
        rw [least_cons] at hleast
        refine Bool.false_ne_true (hb.symm.trans (least_cons.2 ⟨Nat.le_refl _, ?_⟩))
        simp only [least, List.all_eq_true, decide_eq_true_eq] at hleast ⊢
        exact fun e he => Nat.le_trans (Nat.not_lt.1 hd) (hleast.2 e he)

theorem locate_eq_find? (classes : List ClassSymbol) (r : Range) :
    locate classes r = classes.find? (nearest classes r) := by
  have hfind : classes.find? (nearest classes r) =
      (classes.filter (·.containsLines r)).find? (least (classes.filter (·.containsLines r)) r) := by
    rw [List.find?_filter]
    congr 1
    funext c
    simp [nearest]
  rw [locate, hfind]
  cases classes.filter (·.containsLines r) with
  | nil => rfl
  | cons b rest => exact foldl_nearer r rest b

theorem locate_eq_getElem? (classes : List ClassSymbol) (r : Range) :
    locate classes r = (place? classes r).bind (classes[·]?) := by
  rw [locate_eq_find?, place?]
  exact List.find?_eq_bind_findIdx?_getElem?

theorem place?_map (f : ClassSymbol → ClassSymbol) (hf : ∀ c, (f c).range = c.range) (classes : List ClassSymbol)
    (r : Range) : place? (classes.map f) r = place? classes r := by
  have hlines : ∀ c, (f c).containsLines r = c.containsLines r := fun c => by rw [containsLines, hf]; rfl
  have hdistance : ∀ c, (f c).distance r = c.distance r := fun c => by rw [distance, hf]; rfl
  rw [place?, List.findIdx?_map, place?]
  congr 1
  funext c
  simp [nearest, least, List.filter_map, hlines, hdistance, Function.comp_def]

/-- Where a class is located depends on the ranges alone. -/
theorem place?_congr {classes' : List ClassSymbol} (h : classes.map range = classes'.map range) :
    place? classes r = place? classes' r := by
  have hbare : ∀ cs : List ClassSymbol,
      place? cs r = place? ((cs.map range).map fun a => ⟨[], .classType, a, []⟩) r := fun cs => by
    rw [List.map_map]
    exact (place?_map (fun c => ⟨[], .classType, c.range, []⟩) (fun _ => rfl) cs r).symm
  rw [hbare, h, ← hbare]

end Classwright.ClassSymbol
