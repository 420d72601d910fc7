import Mathlib.Data.List.Forall2
import Classwright.Generated.Accessor
import Classwright.Proofs.Generated.Function
/-!
# Choices of accessors

The label of a choice is read back as that choice (`ofLabel?_label`). The functions of a choice are
written under its names, and a choice is offered as long as all its names are missing in the class
(`accessorOptions_eq_filter`).
-/
namespace Classwright

namespace AccessorOption

/-- All choices, in the order in which they are offered. -/
def all : List AccessorOption := Accessor.all.flatMap fun a => Placement.all.map (⟨a, ·⟩)

theorem ofLabel?_label (o : AccessorOption) : ofLabel? o.label = some o := by
  obtain ⟨accessor, placement⟩ := o
  cases accessor <;> cases placement <;> decide

theorem label_injective : Function.Injective label := fun o o' h =>
  Option.some.inj ((ofLabel?_label o).symm.trans ((congrArg ofLabel? h).trans (ofLabel?_label o')))

end AccessorOption

/-- The function is written under a name: the name stands in front of the parameters. -/
def FunctionParts.HasName (p : FunctionParts) (name : Text) : Prop := ∃ rest, p.main = name ++ '(' :: rest

namespace Member

variable {m : Member} {c : ClassSymbol} {a a' : Accessor}

/-- The names of the functions of a choice. -/
def accessorNames (m : Member) : Accessor → List Text
  | .getter => [m.getterName]
  | .setter => [m.setterName]
  | .both => [m.getterName, m.setterName]

theorem hasName_getter (m : Member) : m.getter.HasName m.getterName := ⟨") const", rfl⟩

theorem hasName_setter (m : Member) : m.setter.HasName m.setterName := by
  refine ⟨m.passedType ++ " " ++ ("new" ++ m.canonicalName.upperFirst) ++ ")", ?_⟩
  simp only [setter, List.append_assoc]
  rfl

theorem forall₂_hasName (m : Member) (a : Accessor) :
    List.Forall₂ FunctionParts.HasName (m.accessors a) (m.accessorNames a) := by
  cases a with
  | getter => exact .cons m.hasName_getter .nil
  | setter => exact .cons m.hasName_setter .nil
  | both => exact .cons m.hasName_getter (.cons m.hasName_setter .nil)

theorem newline_notMem_passedType (ht : '\n' ∉ m.type) : '\n' ∉ m.passedType := by
  unfold passedType
  split <;> simp [ht]

theorem newline_notMem_head_getter (ht : '\n' ∉ m.type) (hc : '\n' ∉ m.canonicalName) : '\n' ∉ m.getter.head := by
  simp [getter, FunctionParts.head, getterName, newline_notMem_passedType ht, hc]

theorem newline_notMem_head_setter (ht : '\n' ∉ m.type) (hc : '\n' ∉ m.canonicalName) : '\n' ∉ m.setter.head := by
  simp [setter, FunctionParts.head, setterName, newline_notMem_passedType ht, Text.newline_notMem_upperFirst hc]

theorem length_le_length_upperFirst (t : Text) : t.length ≤ t.upperFirst.length + 1 := by
  cases t with
  | nil => exact Nat.zero_le _
  | cons c rest => simp [Text.upperFirst]

/-- A setter has the longer name. -/
theorem getterName_ne_setterName (m : Member) : m.getterName ≠ m.setterName := fun h => by
  have hlength := congrArg List.length h
  have hupper := length_le_length_upperFirst m.canonicalName
  rw [setterName, List.length_append] at hlength
  simp only [getterName] at hlength
  have : ("set" : Text).length = 3 := rfl
  omega

theorem nodup_accessorNames (m : Member) (a : Accessor) : (m.accessorNames a).Nodup := by
  cases a <;> simp [accessorNames, getterName_ne_setterName]

/-- The class has none of the functions of a choice. -/
def lacks (m : Member) (c : ClassSymbol) (a : Accessor) : Bool := (m.accessorNames a).all fun name => !c.hasMethod name

theorem missingAccessors_eq_filter (m : Member) (c : ClassSymbol) :
    missingAccessors (c.hasMethod m.getterName) (c.hasMethod m.setterName) = Accessor.all.filter (m.lacks c) := by
  cases hg : c.hasMethod m.getterName <;> cases hs : c.hasMethod m.setterName <;>
    simp [missingAccessors, Accessor.all, lacks, accessorNames, hg, hs]

/-- **The choices that are offered** are those none of whose functions the class has. -/
theorem accessorOptions_eq_filter (hm : m.isComplete = true) (c : ClassSymbol) :
    m.accessorOptions c = AccessorOption.all.filter fun o => m.lacks c o.accessor := by
  rw [accessorOptions, if_pos hm, missingAccessors_eq_filter]
  cases hg : m.lacks c .getter <;> cases hs : m.lacks c .setter <;> cases hb : m.lacks c .both <;>
    simp [AccessorOption.all, Accessor.all, Placement.all, hg, hs, hb]

end Member
end Classwright
