import Mathlib.Data.List.Nodup
import Mathlib.Data.List.Perm.Subperm
import Classwright.Command.Run
import Classwright.Proofs.Generated.Accessor
import Classwright.Proofs.Symbol.Grown
/-!
# Choosing accessors

The labels that are offered for a data member and the command that writes the functions of a label go
by the same class and the same names. So each label that is offered is written, under names that the
class does not have, and once the functions are in the class it is not offered again
(`labels_withMethods`). A run of choices ends after two of them at the latest.
-/
namespace Classwright

namespace ClassSymbol

theorem inForest_methods (methods : List (Text × Range)) :
    inForest (methods.map fun p => Symbol.method p.1 p.2) = [] := by
  induction methods with
  | nil => rfl
  | cons p rest ih => rw [List.map_cons, inForest, ih]; rfl

theorem hasMethod_withMore (c : ClassSymbol) (methods : List (Text × Range)) (name : Text) :
    (c.withMore (methods.map fun p => Symbol.method p.1 p.2)).hasMethod name =
      (c.hasMethod name || (methods.map Prod.fst).contains name) := by
  rw [hasMethod, withMore, List.any_append, List.any_map, List.contains_eq_any_beq, List.any_map]
  congr 1
  exact congrArg (methods.any ·) (funext fun p => Bool.beq_comm)

end ClassSymbol

namespace AccessorRequest

open ClassSymbol

variable {r : AccessorRequest} {s : Settings} {w : Workspace} {c : ClassSymbol} {o : AccessorOption}

def choosing (r : AccessorRequest) (label : Text) : AccessorRequest := { r with option := some label }

/-- Where the class around the member is among all classes. -/
def place? (r : AccessorRequest) : Option Nat := r.memberRange.bind (ClassSymbol.place? (inForest r.symbols))

/-- The request with more methods, each with its range, in the class around the member. -/
def withMethods (r : AccessorRequest) (methods : List (Text × Range)) : AccessorRequest :=
  match r.place? with
  | some n => { r with symbols := Symbol.growForest (methods.map fun p => .method p.1 p.2) r.symbols n }
  | none => r

def names (r : AccessorRequest) (s : Settings) (o : AccessorOption) : List Text :=
  (r.member s).accessorNames o.accessor

theorem enclosingClass_eq (r : AccessorRequest) :
    r.enclosingClass = r.place?.bind ((inForest r.symbols)[·]?) := by
  rw [enclosingClass, place?]
  cases r.memberRange with
  | none => rfl
  | some range => exact locate_eq_getElem? _ _

theorem member_withMethods (r : AccessorRequest) (methods : List (Text × Range)) (s : Settings) :
    (r.withMethods methods).member s = r.member s := by
  unfold withMethods
  split <;> rfl

/-- The class around the member with more methods is still the class around the member. -/
theorem enclosingClass_withMethods (hc : r.enclosingClass = some c) (methods : List (Text × Range)) :
    ∃ c', (r.withMethods methods).enclosingClass = some c' ∧
      ∀ name, c'.hasMethod name = (c.hasMethod name || (methods.map Prod.fst).contains name) := by
  have hmore := inForest_methods methods
  rw [enclosingClass_eq, Option.bind_eq_some_iff] at hc
  obtain ⟨n, hn, hc⟩ := hc
  have hplace : (r.withMethods methods).place? = some n := by
    simp only [withMethods, hn]
    rw [← hn]
    exact congrArg r.memberRange.bind (funext fun range => place?_growForest hmore r.symbols n range)
  obtain ⟨c', hc', hshell⟩ := exists_getElem?_growForest hmore hc
  refine ⟨c', ?_, fun name => ?_⟩
  · rw [enclosingClass_eq, hplace, withMethods, hn]
    exact hc'
  · rw [← hasMethod_shell, hshell, hasMethod_shell, hasMethod_withMore]

/-! ## What is offered -/

theorem exists_of_mem_labels {l : Text} (h : l ∈ r.labels s) :
    ∃ c o, r.enclosingClass = some c ∧ (r.member s).isComplete = true ∧ l = o.label ∧
      ∀ name ∈ r.names s o, c.hasMethod name = false := by
  unfold labels at h
  cases hc : r.enclosingClass with
  | none => simp [hc] at h
  | some c =>
    simp only [hc, List.mem_map] at h
    obtain ⟨o, ho, rfl⟩ := h
    have hm : (r.member s).isComplete = true := by
      by_contra hm
      simp [Member.accessorOptions, hm] at ho
    rw [Member.accessorOptions_eq_filter hm, List.mem_filter] at ho
    exact ⟨c, o, rfl, hm, rfl, by simpa [Member.lacks, names] using ho.2⟩

/-- With more methods in the class, those choices are still offered that do not have their names. -/
theorem labels_withMethods (hc : r.enclosingClass = some c) (hm : (r.member s).isComplete = true)
    (methods : List (Text × Range)) : (r.withMethods methods).labels s =
      (AccessorOption.all.filter fun o => (r.names s o).all fun name =>
        !c.hasMethod name && !(methods.map Prod.fst).contains name).map (·.label) := by
  obtain ⟨c', hc', hhas⟩ := enclosingClass_withMethods hc methods
  rw [labels, hc', member_withMethods]
  simp only [Member.accessorOptions_eq_filter hm, Member.lacks, hhas, Bool.not_or]
  rfl

/-! ## Runs of choices -/

/-- A run of choices in workspaces with the same settings, with the names of each one: each is offered
and answered, and its functions are added to the class before the next one. -/
inductive Run (s : Settings) : AccessorRequest → List (List Text) → Prop
  | done (r : AccessorRequest) : Run s r []
  | choose {r : AccessorRequest} {w : Workspace} {o : AccessorOption} {i : Insertion} {methods : List (Text × Range)}
      {rest : List (List Text)} (settings : w.settings = s) (offered : o.label ∈ r.labels s)
      (answered : (r.choosing o.label).insertion w = .ok (some i)) (added : methods.map Prod.fst = r.names s o)
      (more : Run s (r.withMethods methods) rest) : Run s r (r.names s o :: rest)

theorem names_subset (r : AccessorRequest) (s : Settings) (o : AccessorOption) :
    r.names s o ⊆ [(r.member s).getterName, (r.member s).setterName] := by
  unfold names
  cases o.accessor <;> simp [Member.accessorNames]

theorem names_ne_nil (r : AccessorRequest) (s : Settings) (o : AccessorOption) : r.names s o ≠ [] := by
  unfold names
  cases o.accessor <;> simp [Member.accessorNames]

/-- No name is written twice in a run, and none that the class has. -/
theorem Run.fresh {steps : List (List Text)} (h : Run s r steps) :
    steps.flatten.Nodup ∧ ∀ c, r.enclosingClass = some c → ∀ name ∈ steps.flatten, c.hasMethod name = false := by
  induction h with
  | done r => exact ⟨List.nodup_nil, fun _ _ _ h => absurd h List.not_mem_nil⟩
  | @choose r w o i methods rest settings offered answered added more ih =>
    obtain ⟨hnodup, hfresh⟩ := ih
    obtain ⟨c, o', hc, -, hlabel, hlacks⟩ := exists_of_mem_labels offered
    obtain rfl := AccessorOption.label_injective hlabel
    obtain ⟨c', hc', hhas⟩ := enclosingClass_withMethods hc methods
    -- later names are missing in the class that has the names of this choice
    have hlater : ∀ name ∈ rest.flatten, c.hasMethod name = false ∧ name ∉ r.names s o := fun name hname => by
      have := hfresh c' hc' name hname
      rw [hhas, added] at this
      simpa using this
    rw [List.flatten_cons]
    refine ⟨?_, fun d hd name hname => ?_⟩
    · refine List.Nodup.append (Member.nodup_accessorNames _ _) hnodup fun name hname hrest => ?_
      exact (hlater name hrest).2 hname
    · obtain rfl := Option.some.inj (hc.symm.trans hd)
      exact (List.mem_append.1 hname).elim (hlacks name) fun h => (hlater name h).1

theorem Run.names_mem {steps : List (List Text)} (h : Run s r steps) :
    steps.flatten ⊆ [(r.member s).getterName, (r.member s).setterName] ∧ steps.length ≤ steps.flatten.length := by
  induction h with
  | done r => exact ⟨List.nil_subset _, Nat.le_refl _⟩
  | @choose r w o i methods rest settings offered answered added more ih =>
    rw [member_withMethods] at ih
    rw [List.flatten_cons, List.length_cons, List.length_append]
    have hpos := List.length_pos_iff.2 (names_ne_nil r s o)
    exact ⟨List.append_subset.2 ⟨names_subset r s o, ih.1⟩, by omega⟩

theorem Run.length_le_two {steps : List (List Text)} (h : Run s r steps) : steps.length ≤ 2 :=
  Nat.le_trans h.names_mem.2 (h.fresh.1.subperm h.names_mem.1).length_le

/-! ## What is answered -/

/-- A choice is answered with its functions, under names that the class does not have. -/
structure Written (r : AccessorRequest) (w : Workspace) (c : ClassSymbol) (o : AccessorOption) (i : Insertion) : Prop where
  read : AccessorOption.ofLabel? o.label = some o
  insertion : (r.choosing o.label).insertion w = .ok (some i)
  run : ∀ j, AccessorRequest.decode j = .ok (r.choosing o.label) →
    Command.createGetterSetter.run w j = .ok (w.plain i.toJson)
  className : i.className = c.name
  length : i.functions.length = if o.accessor = .both then 2 else 1
  functions : ∃ parts indent, i.functions = parts.map (fun p => (p.render o.placement).indented indent) ∧
    List.Forall₂ FunctionParts.HasName parts (r.names w.settings o)
  fresh : ∀ name ∈ r.names w.settings o, c.hasMethod name = false

theorem exists_insertion {d : Document} (hopen : w.documents.get? r.url = some d) (hc : r.enclosingClass = some c)
    (hm : (r.member w.settings).isComplete = true) (o : AccessorOption) :
    ∃ i indent, (r.choosing o.label).insertion w = .ok (some i) ∧ i.className = c.name ∧
      i.functions = ((r.member w.settings).accessors o.accessor).map fun p => (p.render o.placement).indented indent := by
  let i := Insertion.intoClass d c (Insertion.sourceUrl? r.url o.placement) ((r.member w.settings).writeAccessors o)
  have hfunctions : i.functions = ((r.member w.settings).accessors o.accessor).map fun p =>
      (p.render o.placement).indented (PublicSection.ofClass c (d.textIn c.range)).indent :=
    if_pos hm
  refine ⟨i, _, ?_, rfl, hfunctions⟩
  have hne : i.functions.isEmpty = false := by
    rw [hfunctions]
    cases o.accessor <;> rfl
  have hload : w.load (r.choosing o.label).url = .ok d := by
    change w.load r.url = _
    rw [Workspace.load, hopen]
  have henclosing : (r.choosing o.label).enclosingClass = some c := hc
  simp only [insertion, choosing] at hload henclosing ⊢
  simp only [Option.getD_some, AccessorOption.ofLabel?_label, henclosing, hload]
  change Except.ok (if i.functions.isEmpty = true then none else some i) = _
  rw [hne]
  rfl

theorem exists_written {d : Document} (hopen : w.documents.get? r.url = some d) {l : Text}
    (hl : l ∈ r.labels w.settings) : ∃ c o i, r.enclosingClass = some c ∧ l = o.label ∧ r.Written w c o i := by
  obtain ⟨c, o, hc, hm, rfl, hlacks⟩ := exists_of_mem_labels hl
  obtain ⟨i, indent, hi, hname, hfunctions⟩ := exists_insertion hopen hc hm o
  refine ⟨c, o, i, hc, rfl, o.ofLabel?_label, hi, fun j hj => ?_, hname, ?_, ⟨_, indent, hfunctions, Member.forall₂_hasName _ _⟩, hlacks⟩
  · simp only [Command.run, Workspace.readArgument, hj, Except.mapError, hi, bind, Except.bind]
    rfl
  · rw [hfunctions, List.length_map]
    cases o.accessor <;> rfl

/-- **The labels and the functions agree.** Each label that is offered is answered with functions under
names that the class does not have. With these methods in the class, the choices are still offered
that have none of the names. A run of choices writes no name twice and has two choices at most. -/
theorem labels_agree (w : Workspace) (r : AccessorRequest) (d : Document) (hopen : w.documents.get? r.url = some d) :
    (∀ j, AccessorRequest.decode j = .ok r →
      Command.getterSetterOptions.run w j = .ok (w.plain (.ofList .str (r.labels w.settings)))) ∧
    (∀ l ∈ r.labels w.settings, ∃ c o i, r.enclosingClass = some c ∧ l = o.label ∧ r.Written w c o i ∧
      ∀ methods : List (Text × Range), methods.map Prod.fst = r.names w.settings o →
        (r.withMethods methods).labels w.settings =
          (AccessorOption.all.filter fun o' => (r.names w.settings o').all fun name =>
            !c.hasMethod name && !(r.names w.settings o).contains name).map (·.label) ∧
        ∀ o', (∃ name ∈ r.names w.settings o', name ∈ r.names w.settings o) →
          o'.label ∉ (r.withMethods methods).labels w.settings) ∧
    ∀ steps, Run w.settings r steps → steps.length ≤ 2 ∧ steps.flatten.Nodup ∧
      ∀ c, r.enclosingClass = some c → ∀ name ∈ steps.flatten, c.hasMethod name = false := by
  refine ⟨fun j hj => ?_, fun l hl => ?_, fun steps h => ⟨h.length_le_two, h.fresh⟩⟩
  · simp only [Command.run, Workspace.readArgument, hj, Except.mapError, bind, Except.bind]
    rfl
  · obtain ⟨c, o, i, hc, rfl, hwritten⟩ := exists_written hopen hl
    refine ⟨c, o, i, hc, rfl, hwritten, fun methods hmethods => ?_⟩
    have hlabels := labels_withMethods hc (exists_of_mem_labels hl).choose_spec.choose_spec.2.1 methods
    rw [hmethods] at hlabels
    refine ⟨hlabels, fun o' ⟨name, ho', ho⟩ hoffered => ?_⟩
    rw [hlabels, List.mem_map] at hoffered
    obtain ⟨o'', hfilter, hlabel⟩ := hoffered
    obtain rfl := AccessorOption.label_injective hlabel
    have hall := List.all_eq_true.1 (List.mem_filter.1 hfilter).2 name ho'
    simp [ho] at hall

/-- A field of a class that has its getter already. -/
def halfDone : AccessorRequest where
  url := ⟨"file", some {}, "/c.h", none, none⟩
  hover := ⟨"### field `m_x`\nType: `int`"⟩
  node := none
  symbols := [.node "C" 5 ⟨⟨0, 0⟩, ⟨3, 2⟩⟩ [.method "x" ⟨⟨1, 4⟩, ⟨1, 5⟩⟩, .node "m_x" 8 ⟨⟨2, 4⟩, ⟨2, 7⟩⟩ []]]
  range := some ⟨⟨2, 4⟩, ⟨2, 7⟩⟩
  option := none

theorem labels_agree_halfDone :
    let d := Document.new "cpp" "class C \x7b\n    int x() const;\n    int m_x;\n\x7d;" 1
    let w : Workspace := ⟨.usual, DocumentStore.empty.insert halfDone.url d, [], { root := .dir [] }⟩
    w.documents.get? halfDone.url = some d ∧ halfDone.labels .usual = ["Setter (in header)", "Setter (in source)"] ∧
      (∃ i, (halfDone.choosing "Setter (in source)").insertion w = .ok (some i) ∧ i.className = "C" ∧
        i.functions.length = 1) ∧
      (halfDone.withMethods [("setX", ⟨⟨1, 0⟩, ⟨1, 4⟩⟩)]).labels .usual = [] := by
  intro d w
  have hopen : w.documents.get? halfDone.url = some d := by decide +kernel
  have hlabels : halfDone.labels .usual = ["Setter (in header)", "Setter (in source)"] := by decide +kernel
  obtain ⟨-, hagree, -⟩ := labels_agree w halfDone d hopen
  obtain ⟨c, o, i, hc, ho, hwritten, hgone⟩ := hagree "Setter (in source)" (by rw [hlabels]; exact .tail _ (.head _))
  obtain rfl : o = ⟨.setter, .inSource⟩ := AccessorOption.label_injective (ho.symm.trans (by decide))
  obtain rfl : c = ⟨"C", .classType, ⟨⟨0, 0⟩, ⟨3, 2⟩⟩, halfDone.symbols.flatMap Symbol.children⟩ :=
    Option.some.inj (hc.symm.trans rfl)
  refine ⟨hopen, hlabels, ⟨i, hwritten.insertion, hwritten.className, hwritten.length⟩, ?_⟩
  rw [(hgone [("setX", ⟨⟨1, 0⟩, ⟨1, 4⟩⟩)] (by decide +kernel)).1]
  decide +kernel

end AccessorRequest
end Classwright
