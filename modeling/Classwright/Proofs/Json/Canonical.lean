import Mathlib.Data.List.Lex
import Mathlib.Order.Defs.LinearOrder
import Classwright.Proofs.Json.Number
/-!
# Values as they are read

A value that was read is canonical (`canonical_of_read?`): its whole numbers fit 64 bits, the keys of its
objects are sorted, and it nests as deep as the reader allows. Such an object is what its fields make
up (`ofFields_of_sorted`).
-/
namespace Classwright.Json

/-- The keys of an object increase. -/
def Sorted (fields : List (Text × Json)) : Prop := fields.Pairwise (·.1 < ·.1)

/-- A value that nests at most `depth` arrays and objects, as the reader gives it. -/
inductive Canonical : Nat → Json → Prop
  | null {depth : Nat} : Canonical depth .null
  | bool {depth : Nat} (b : Bool) : Canonical depth (.bool b)
  | int {depth : Nat} {n : Int} (low : -(twoTo 63 : Int) ≤ n) (high : n < twoTo 64) : Canonical depth (.int n)
  | double {depth : Nat} (d : Double) : Canonical depth (.double d)
  | str {depth : Nat} (t : Text) : Canonical depth (.str t)
  | arr {depth : Nat} {items : List Json} (items_canonical : ∀ j ∈ items, Canonical depth j) :
    Canonical (depth + 1) (.arr items)
  | obj {depth : Nat} {fields : List (Text × Json)} (sorted : Sorted fields)
    (values_canonical : ∀ f ∈ fields, Canonical depth f.2) : Canonical (depth + 1) (.obj fields)

theorem IsNumber.canonical {j : Json} (h : j.IsNumber) (depth : Nat) : Canonical depth j := by
  obtain ⟨n, rfl, hlow, hhigh⟩ | ⟨d, rfl⟩ := h
  · exact .int hlow hhigh
  · exact .double d

/-! ## Sorted objects -/

section

variable {key : Text} {value : Json} {fields : List (Text × Json)}

theorem mem_setField {f : Text × Json} (h : f ∈ setField key value fields) : f = (key, value) ∨ f ∈ fields := by
  induction fields with
  | nil => exact Or.inl (List.mem_singleton.1 h)
  | cons g rest ih =>
    rw [setField] at h
    split at h
    · exact (List.mem_cons.1 h).imp_right (List.mem_cons_of_mem g)
    · split at h
      · exact List.mem_cons.1 h
      · obtain rfl | h := List.mem_cons.1 h
        · exact Or.inr List.mem_cons_self
        · exact (ih h).imp_right (List.mem_cons_of_mem g)

theorem Sorted.setField (h : Sorted fields) (key : Text) (value : Json) : Sorted (setField key value fields) := by
  induction fields with
  | nil => exact List.pairwise_singleton _ _
  | cons g rest ih =>
    obtain ⟨k, v⟩ := g
    obtain ⟨hk, hrest⟩ := List.pairwise_cons.1 h
    rw [Json.setField]
    split
    · rename_i heq
      exact List.pairwise_cons.2 ⟨heq ▸ hk, hrest⟩
    · rename_i hne
      split
      · rename_i hlt
        refine List.pairwise_cons.2 ⟨fun f hf => ?_, h⟩
        obtain rfl | hf := List.mem_cons.1 hf
        · exact hlt
        · exact List.lt_trans hlt (hk f hf)
      · rename_i hle
        refine List.pairwise_cons.2 ⟨fun f hf => ?_, ih hrest⟩
        obtain rfl | hf := mem_setField hf
        · exact Std.lt_of_le_of_ne (Std.not_lt.1 hle) (Ne.symm hne)
        · exact hk f hf

theorem setField_append (h : ∀ f ∈ fields, f.1 < key) (value : Json) (after : List (Text × Json)) :
    setField key value (fields ++ after) = fields ++ setField key value after := by
  induction fields with
  | nil => rfl
  | cons g rest ih =>
    obtain ⟨k, v⟩ := g
    have hk : k < key := h (k, v) List.mem_cons_self
    have hrest := ih fun f hf => h f (List.mem_cons_of_mem _ hf)
    rw [List.cons_append, setField, if_neg (fun heq => List.lt_irrefl _ (heq ▸ hk)),
      if_neg (fun hlt => List.lt_irrefl _ (List.lt_trans hlt hk)), hrest]
    rfl

theorem foldl_setField (before : List (Text × Json)) (h : Sorted (before ++ fields)) :
    fields.foldl (fun sorted (k, v) => setField k v sorted) before = before ++ fields := by
  induction fields generalizing before with
  | nil => rw [List.append_nil]; rfl
  | cons g rest ih =>
    obtain ⟨k, v⟩ := g
    have hk : ∀ f ∈ before, f.1 < k := fun f hf => (List.pairwise_append.1 h).2.2 f hf (k, v) List.mem_cons_self
    have hset : Json.setField k v before = before ++ [(k, v)] := by
      simpa [Json.setField] using setField_append hk v []
    have happ : before ++ (k, v) :: rest = before ++ [(k, v)] ++ rest := by simp
    rw [List.foldl_cons, happ]
    simp only [hset]
    exact ih (before ++ [(k, v)]) (happ ▸ h)

/-- Fields in order are the object that they make up. -/
theorem ofFields_of_sorted (h : Sorted fields) : ofFields fields = .obj fields :=
  congrArg Json.obj (foldl_setField [] h)

/-- Fields in any order make up a sorted object of some of them. -/
theorem ofFields_sorted (fields : List (Text × Json)) :
    ∃ sorted, ofFields fields = .obj sorted ∧ Sorted sorted ∧ ∀ f ∈ sorted, f ∈ fields := by
  have go : ∀ before : List (Text × Json), Sorted before →
      Sorted (fields.foldl (fun sorted (k, v) => Json.setField k v sorted) before) ∧
      ∀ f ∈ fields.foldl (fun sorted (k, v) => Json.setField k v sorted) before, f ∈ before ∨ f ∈ fields := by
    induction fields with
    | nil => exact fun before h => ⟨h, fun f hf => Or.inl hf⟩
    | cons g rest ih =>
      intro before h
      obtain ⟨hsorted, hmem⟩ := ih _ (h.setField g.1 g.2)
      refine ⟨hsorted, fun f hf => ?_⟩
      obtain hf | hf := hmem f hf
      · obtain rfl | hf := mem_setField hf
        · exact Or.inr List.mem_cons_self
        · exact Or.inl hf
      · exact Or.inr (List.mem_cons_of_mem g hf)
  obtain ⟨hsorted, hmem⟩ := go [] List.Pairwise.nil
  exact ⟨_, rfl, hsorted, fun f hf => (hmem f hf).resolve_left List.not_mem_nil⟩

end

/-! ## What the reader gives -/

/-- What is read with some fuel is canonical. -/
structure ReadsCanonical (fuel : Nat) : Prop where
  value : ∀ depth t j rest, readValue fuel depth t = some (j, rest) → Canonical depth j
  items : ∀ depth t items rest, readItems fuel depth t = some (items, rest) → ∀ j ∈ items, Canonical depth j
  fields : ∀ depth t fields rest, readFields fuel depth t = some (fields, rest) → ∀ f ∈ fields, Canonical depth f.2

theorem ReadsCanonical.readValue_succ {fuel : Nat} (ih : ReadsCanonical fuel) {depth : Nat} {t rest : Text} {j : Json}
    (h : readValue (fuel + 1) depth t = some (j, rest)) : Canonical depth j := by
  rw [readValue] at h
  split at h
  · cases h
    exact .null
  · cases h
    exact .bool true
  · cases h
    exact .bool false
  · obtain ⟨_, -, h⟩ := Option.map_eq_some_iff.1 h
    cases h
    exact .str _
  · exact ((numberReader_readUnsigned true).isNumber _ _ _ h).canonical depth
  · split at h
    · cases h
    · split at h
      · cases h
        exact .arr fun _ hj => absurd hj List.not_mem_nil
      · obtain ⟨⟨items, more⟩, hitems, h⟩ := Option.map_eq_some_iff.1 h
        cases h
        exact .arr (ih.items _ _ _ _ hitems)
  · split at h
    · cases h
    · split at h
      · cases h
        exact .obj List.Pairwise.nil fun _ hf => absurd hf List.not_mem_nil
      · obtain ⟨⟨fields, more⟩, hfields, h⟩ := Option.map_eq_some_iff.1 h
        cases h
        obtain ⟨sorted, hobj, hsorted, hmem⟩ := ofFields_sorted fields
        rw [hobj]
        exact .obj hsorted fun f hf => ih.fields _ _ _ _ hfields f (hmem f hf)
  · exact ((numberReader_readUnsigned false).isNumber _ _ _ h).canonical depth

theorem ReadsCanonical.readItems_succ {fuel : Nat} (ih : ReadsCanonical fuel) {depth : Nat} {t rest : Text}
    {items : List Json} (h : readItems (fuel + 1) depth t = some (items, rest)) : ∀ j ∈ items, Canonical depth j := by
  rw [readItems] at h
  split at h
  · cases h
  · rename_i j more hj
    split at h
    · obtain ⟨⟨items, _⟩, hitems, h⟩ := Option.map_eq_some_iff.1 h
      cases h
      exact List.forall_mem_cons.2 ⟨ih.value _ _ _ _ hj, ih.items _ _ _ _ hitems⟩
    · cases h
      exact List.forall_mem_singleton.2 (ih.value _ _ _ _ hj)
    · cases h

theorem ReadsCanonical.readFields_succ {fuel : Nat} (ih : ReadsCanonical fuel) {depth : Nat} {t rest : Text}
    {fields : List (Text × Json)} (h : readFields (fuel + 1) depth t = some (fields, rest)) :
    ∀ f ∈ fields, Canonical depth f.2 := by
  rw [readFields] at h
  split at h
  · split at h
    · cases h
    · split at h
      · split at h
        · cases h
        · rename_i j more hj
          split at h
          · obtain ⟨⟨fields, _⟩, hfields, h⟩ := Option.map_eq_some_iff.1 h
            cases h
            exact List.forall_mem_cons.2 ⟨ih.value _ _ _ _ hj, ih.fields _ _ _ _ hfields⟩
          · cases h
            exact List.forall_mem_singleton.2 (ih.value _ _ _ _ hj)
          · cases h
      · cases h
  · cases h

theorem readsCanonical (fuel : Nat) : ReadsCanonical fuel := by
  induction fuel with
  | zero =>
    refine ⟨fun _ _ _ _ h => ?_, fun _ _ _ _ h => ?_, fun _ _ _ _ h => ?_⟩
    · cases h
    · cases h
    · cases h
  | succ fuel ih => exact ⟨fun _ _ _ _ => ih.readValue_succ, fun _ _ _ _ => ih.readItems_succ, fun _ _ _ _ => ih.readFields_succ⟩

/-- **What is read is canonical.** -/
theorem canonical_of_read? {t : Text} {j : Json} (h : read? t = some j) : Canonical maxDepth j := by
  rw [read?] at h
  split at h
  · rename_i value rest hread
    split at h
    · cases h
      exact (readsCanonical _).value _ _ _ _ hread
    · cases h
  · cases h

end Classwright.Json
