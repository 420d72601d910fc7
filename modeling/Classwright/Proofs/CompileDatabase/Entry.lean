import Classwright.CompileDatabase
import Classwright.Proofs.Json.RoundTrip
/-!
# Entries of a compilation database

The rules touch nothing of an entry but its command, and the command only if it is a text
(`stripEntry_eq`). What was read can be written and read again after that (`canonical_mapCommand`,
`doubles_mapCommand`).
-/
namespace Classwright

namespace Json

variable {fields : List (Text × Json)} {key : Text} {j : Json} {g : Json → Json}

/-- The values under a key changed in their places. -/
def mapField (key : Text) (g : Json → Json) (fields : List (Text × Json)) : List (Text × Json) :=
  fields.map fun (k, v) => (k, if k = key then g v else v)

theorem mapField_of_ne (h : ∀ f ∈ fields, f.1 ≠ key) : mapField key g fields = fields := by
  refine (List.map_congr_left fun f hf => ?_).trans (List.map_id fields)
  exact congrArg (Prod.mk f.1) (if_neg (h f hf))

/-- In an object, that sets the key. -/
theorem Sorted.mapField_eq (h : Sorted fields) (hj : fields.lookup key = some j) (g : Json → Json) :
    mapField key g fields = Json.setField key (g j) fields := by
  obtain ⟨front, back, rfl, -⟩ := List.lookup_eq_some_iff.1 hj
  obtain ⟨-, hback, hfront⟩ := List.pairwise_append.1 h
  have hbefore : ∀ f ∈ front, f.1 < key := fun f hf => hfront f hf (key, j) List.mem_cons_self
  have hafter : ∀ f ∈ back, key < f.1 := (List.pairwise_cons.1 hback).1
  have hne : mapField key g front = front ∧ mapField key g back = back :=
    ⟨mapField_of_ne fun f hf heq => List.lt_irrefl _ (heq ▸ hbefore f hf),
      mapField_of_ne fun f hf heq => List.lt_irrefl _ (heq ▸ hafter f hf)⟩
  rw [setField_append hbefore (g j), Json.setField, if_pos rfl]
  calc mapField key g (front ++ (key, j) :: back)
      = mapField key g front ++ (key, g j) :: mapField key g back := by simp [mapField]
    _ = front ++ (key, g j) :: back := by rw [hne.1, hne.2]

theorem lookup_mapField (key : Text) (g : Json → Json) (fields : List (Text × Json)) :
    (mapField key g fields).lookup key = (fields.lookup key).map g := by
  induction fields with
  | nil => rfl
  | cons f rest ih =>
    obtain ⟨k, v⟩ := f
    rw [mapField, List.map_cons, List.lookup_cons, List.lookup_cons]
    by_cases heq : key = k
    · subst heq
      simp
    · rw [beq_eq_false_iff_ne.2 heq]
      exact ih

theorem Sorted.mapField (h : Sorted fields) : Sorted (mapField key g fields) := List.pairwise_map.2 h

theorem doublesOfFields_mapField (h : ∀ j, (g j).doubles = j.doubles) (key : Text) (fields : List (Text × Json)) :
    doublesOfFields (Json.mapField key g fields) = doublesOfFields fields := by
  induction fields with
  | nil => rfl
  | cons f rest ih =>
    rw [Json.mapField, List.map_cons, doublesOfFields, doublesOfFields]
    congr 1
    split
    · exact h f.2
    · rfl

/-- A text is changed, a value of another kind is not. -/
def mapText (f : Text → Text) : Json → Json
  | .str t => .str (f t)
  | j => j

theorem mapText_of_text? (f : Text → Text) (h : j.text? = none) : j.mapText f = j := by
  cases j with
  | str t => cases h
  | _ => rfl

theorem text?_mapText (f : Text → Text) (j : Json) : (j.mapText f).text? = j.text?.map f := by
  cases j <;> rfl

theorem doubles_mapText (f : Text → Text) (j : Json) : (j.mapText f).doubles = j.doubles := by
  cases j with
  | str t => simp [mapText, doubles]
  | _ => rfl

theorem Canonical.mapText {depth : Nat} (h : Canonical depth j) (f : Text → Text) : Canonical depth (j.mapText f) := by
  cases h with
  | str t => exact .str (f t)
  | null => exact .null
  | bool b => exact .bool b
  | int low high => exact .int low high
  | double d => exact .double d
  | arr hitems => exact .arr hitems
  | obj hsorted hvalues => exact .obj hsorted hvalues

end Json

namespace CompileDatabase

open Json

variable {depth : Nat} {entry : Json} {f : Text → Text}

/-- The entry with another command, if its command is a text. -/
def mapCommand (f : Text → Text) : Json → Json
  | .obj fields => .obj (mapField commandKey (mapText f) fields)
  | j => j

theorem command?_mapCommand (f : Text → Text) (entry : Json) : command? (mapCommand f entry) = (command? entry).map f := by
  cases entry with
  | obj fields =>
    simp only [mapCommand, command?, get?, lookup_mapField]
    cases fields.lookup commandKey with
    | none => rfl
    | some j => exact text?_mapText f j
  | _ => rfl

theorem doubles_mapCommand (f : Text → Text) (entry : Json) : (mapCommand f entry).doubles = entry.doubles := by
  cases entry with
  | obj fields =>
    rw [mapCommand, doubles, doubles]
    exact doublesOfFields_mapField (doubles_mapText f) commandKey fields
  | _ => rfl

theorem canonical_mapCommand (h : Canonical depth entry) (f : Text → Text) : Canonical depth (mapCommand f entry) := by
  cases h with
  | obj hsorted hvalues =>
    refine .obj hsorted.mapField fun field hfield => ?_
    obtain ⟨⟨k, j⟩, hj, rfl⟩ := List.mem_map.1 hfield
    dsimp only
    split
    · exact (hvalues _ hj).mapText f
    · exact hvalues _ hj
  | null => exact .null
  | bool b => exact .bool b
  | int low high => exact .int low high
  | double d => exact .double d
  | str t => exact .str t
  | arr hitems => exact .arr hitems

/-- **Only the command** of an entry is touched. -/
theorem stripEntry_eq (h : Canonical depth entry) (rules : List ReadRule) :
    stripEntry rules entry = mapCommand (stripCommand rules) entry := by
  cases h with
  | @obj depth fields hsorted _ =>
    simp only [stripEntry, command?, get?, mapCommand]
    cases hlookup : fields.lookup commandKey with
    | none =>
      have hne : ∀ field ∈ fields, field.1 ≠ commandKey := fun field hfield heq => by
        simpa [heq] using List.lookup_eq_none_iff.1 hlookup field hfield
      rw [mapField_of_ne hne]
      rfl
    | some j =>
      cases htext : j.text? with
      | none =>
        have hset : setField commandKey j fields = fields := by
          simpa [mapField] using (hsorted.mapField_eq hlookup id).symm
        rw [hsorted.mapField_eq hlookup, mapText_of_text? _ htext, hset]
        simp [htext]
      | some command =>
        have hj : j = .str command := by
          cases j with
          | str t => exact congrArg Json.str (Option.some.inj htext)
          | _ => cases htext
        subst hj
        rw [hsorted.mapField_eq hlookup]
        rfl
  | _ => rfl

theorem isChanged_eq (rules : List ReadRule) (entry : Json) :
    isChanged rules entry = (command? (mapCommand (stripCommand rules) entry) != command? entry) := by
  rw [isChanged, command?_mapCommand]
  cases command? entry with
  | none => rfl
  | some command => simp [bne]

end CompileDatabase
end Classwright
