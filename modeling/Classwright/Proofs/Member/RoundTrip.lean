import Mathlib.Tactic.Common
import Classwright.Proofs.Generated.Accessor
import Classwright.Proofs.Hover
import Classwright.Proofs.Signature.RoundTrip
import Classwright.Proofs.Signature.Title
/-!
# Hovers of data members are read back

A language server builds the hover of a data member from a title, some lines, the line with the type,
documentation, and code that begins with a comment on the class. The member that is read off such a
hover has exactly these parts, and its accessors are written from them (`ofHover_hover`), whatever
stands in between.
-/
namespace Classwright

open Text

/-! ## Names without their prefix -/

namespace Member

variable {m : Member} {name mark type : Text} {node : Option SyntaxNode} {builtins : List Text}

/-- The name is taken without the prefix when something is left of it, and as it is when nothing is
left or there is no such prefix. -/
structure IsCanonical (name mark canonical : Text) : Prop where
  stripped : ∀ rest, rest ≠ [] → name = mark ++ rest → canonical = rest
  kept : (∀ rest, name = mark ++ rest → rest = []) → canonical = name

theorem isCanonical_canonical (hne : name ≠ []) (mark : Text) : IsCanonical name mark (canonical name mark) := by
  unfold canonical
  constructor
  · rintro rest hrest rfl
    rw [stripStart?_append]
    by_cases hmark : mark = []
    · subst hmark
      rfl
    · simp [hmark, hrest]
  · intro hkept
    cases hs : name.stripStart? mark with
    | none => rfl
    | some rest =>
      have hrest := hkept rest (stripStart?_eq_some_iff.1 hs)
      simp [hrest]

theorem canonical_isSuffix (name mark : Text) : canonical name mark <:+ name := by
  unfold canonical
  cases hs : name.stripStart? mark with
  | none => exact List.suffix_rfl
  | some rest =>
    dsimp only
    split
    · exact List.suffix_rfl
    · exact ⟨mark, (stripStart?_eq_some_iff.1 hs).symm⟩

theorem canonical_ne_nil (hne : name ≠ []) (mark : Text) : canonical name mark ≠ [] := by
  unfold canonical
  cases hs : name.stripStart? mark with
  | none => exact hne
  | some rest =>
    dsimp only
    split
    · exact hne
    · next h =>
      simp only [Bool.or_eq_true, List.isEmpty_iff, not_or] at h
      exact h.2

/-! ## Built-in types -/

theorem isBuiltinType_iff : isBuiltinType node builtins type = true ↔
    (∃ n first more, node = some n ∧ n.children = first :: more ∧ first.kind = "Builtin".toList) ∨
      type = "std::size_t".toList ∨ type ∈ builtins := by
  have hnode : (node.map SyntaxNode.hasBuiltinType).getD false = true ↔
      ∃ n first more, node = some n ∧ n.children = first :: more ∧ first.kind = "Builtin".toList := by
    cases node with
    | none => simp
    | some n =>
      rw [Option.map_some, Option.getD_some, SyntaxNode.hasBuiltinType]
      cases hc : n.children with
      | nil => simp [hc]
      | cons first more => simp [hc]
  rw [isBuiltinType, Bool.or_eq_true, Bool.or_eq_true, hnode, List.contains_iff_mem, List.contains_iff_mem, or_assoc,
    builtinTypes, List.mem_singleton]

/-! ## The pair of accessors -/

/-- Getter and setter with their bodies outside the class, for values that are passed as `passed`. -/
def pair (passed className name canonical indent : Text) : List GeneratedFunction :=
  let upper := canonical.upperFirst
  [⟨indent ++ (passed ++ " " ++ canonical ++ "() const;") ++ "\n",
      passed ++ " " ++ className ++ "::" ++ canonical ++ "() const\n\x7b\n    return this->" ++ name ++ ";\n\x7d\n"⟩,
    ⟨indent ++ ("void set" ++ upper ++ "(" ++ passed ++ " new" ++ upper ++ ");") ++ "\n",
      "void " ++ className ++ "::set" ++ upper ++ "(" ++ passed ++ " new" ++ upper ++
        ")\n\x7b\n    this->" ++ name ++ " = new" ++ upper ++ ";\n\x7d\n"⟩]

theorem writeAccessors_both (hm : m.isComplete = true) (ht : '\n' ∉ m.type) (hc : '\n' ∉ m.canonicalName) (indent : Text) :
    m.writeAccessors ⟨.both, .inSource⟩ indent =
      pair m.passedType m.className m.declaredName m.canonicalName indent := by
  rw [writeAccessors, if_pos hm, accessors, List.map_cons, List.map_singleton,
    FunctionParts.indented_render_inSource (newline_notMem_head_getter ht hc),
    FunctionParts.indented_render_inSource (newline_notMem_head_setter ht hc), pair]
  simp [getter, setter, getterName, setterName, FunctionParts.head, FunctionParts.withBody,
    FunctionParts.block, FunctionParts.bodyIndent]

end Member

/-! ## Hovers -/

structure FieldHover where
  name : Text
  /-- What stands behind the name on the line of the title. -/
  titleEnd : Text
  type : Text
  className : Text
  /-- The lines between the title and the line with the type. -/
  body : List Text
  /-- What stands between the type and the code. -/
  documentation : Text
  /-- The language of the code. -/
  language : Text
  /-- The code behind the comment on the class. -/
  declaration : Option Text

namespace FieldHover

def code (p : FieldHover) : Text :=
  Hover.scopeMark ++ p.className ++ (match p.declaration with | some t => '\n' :: t | none => [])

def hover (p : FieldHover) : Hover :=
  ⟨Hover.titleOf "field" p.name ++ (p.titleEnd ++ '\n' :: (wholeLines p.body ++ (Hover.typeLine p.type ++
    (p.documentation ++ Hover.fenced p.language p.code))))⟩

/-- The conditions on the parts of a hover. Nothing is said of the documentation. -/
structure Valid (p : FieldHover) : Prop where
  name : p.name ≠ []
  name_line : '\n' ∉ p.name
  name_quote : '\x60' ∉ p.name
  titleEnd : '\n' ∉ p.titleEnd
  type : p.type.IsPhrase
  type_quote : '\x60' ∉ p.type
  className : p.className.IsPhrase
  className_namespace : ¬ "namespace ".toList <+: p.className
  body : ∀ l ∈ p.body, '\n' ∉ l ∧ ¬ Hover.typeMark <:+: l
  language_line : '\n' ∉ p.language
  language_quote : '\x60' ∉ p.language
  fence : p.code.has Hover.fence = false

variable {p : FieldHover}

theorem title_hover (hp : p.Valid) : p.hover.title = Hover.titleOf "field" p.name ++ p.titleEnd.dropReturn :=
  Hover.title_of_titleOf (by decide) hp.name_line hp.titleEnd _

theorem entity_hover (hp : p.Valid) : p.hover.entity = some p.name := by
  rw [Hover.entity, title_hover hp]
  exact Hover.quotedName_titleOf (by decide) hp.name_quote hp.name _

theorem titleHas_hover (hp : p.Valid) : p.hover.titleHas "field" = true := by
  have htitle : "field".toList <:+: Hover.titleOf "field" p.name := by
    refine ⟨"### ", " \x60" ++ p.name ++ "\x60", ?_⟩
    unfold Hover.titleOf
    simp
  rw [Hover.titleHas, title_hover hp, has_iff]
  exact htitle.trans (List.prefix_append ..).isInfix

theorem typeField_hover (hp : p.Valid) : p.hover.typeField = some p.type := by
  have hline : '\n' ∉ Hover.titleOf "field" p.name ++ p.titleEnd := by
    rw [List.mem_append, not_or]
    exact ⟨Hover.notMem_titleOf (by decide) hp.name_line, hp.titleEnd⟩
  exact Hover.typeField_of_typeLine p.hover (List.append_assoc ..).symm hline hp.body hp.type.line hp.type_quote
    hp.type.trim hp.type.ne_nil

/-- The comment on the class is the first line of the code, also when the code ends with it. -/
theorem className_hover (hp : p.Valid) : p.hover.className = some p.className := by
  have hf : ¬ Hover.fence <:+: p.code := by
    rw [← has_iff, hp.fence]
    exact Bool.false_ne_true
  have htight : p.className.TightEnd := tightEnd_of_trim hp.className.trim hp.className.ne_nil
  have hcode : p.hover.code = some (dropEndWhile Hover.isLineEnd p.code) := by
    have hfenced := Hover.fencedCode_fenced hp.language_line hp.language_quote hf (Hover.titleOf "field" p.name ++
      (p.titleEnd ++ '\n' :: (wholeLines p.body ++ (Hover.typeLine p.type ++ p.documentation))))
    rw [Hover.code, hover, ← hfenced]
    simp
  rw [code, (htight.append Hover.scopeMark).dropEndWhile_append fun c => Hover.isBlankChar_of_isLineEnd] at hcode
  refine Hover.className_of_scopeLine (Hover.scopeLine_of_firstLine hcode ?_ hp.className.line htight) hp.className.trim
    hp.className.ne_nil hp.className_namespace
  cases p.declaration with
  | none => exact Or.inl rfl
  | some t =>
    rcases List.prefix_cons_iff.1 (dropEndWhile_isPrefix Hover.isLineEnd ('\n' :: t)) with h | ⟨more, h, -⟩
    · exact Or.inl h
    · exact Or.inr ⟨more, h⟩

/-- The member that the parts describe. -/
def member (p : FieldHover) (node : Option SyntaxNode) (builtins : List Text) (mark : Text) : Member :=
  ⟨p.type, Member.canonical p.name mark, p.name, p.className, Member.isBuiltinType node builtins p.type⟩

theorem ofHover_eq (hp : p.Valid) (node : Option SyntaxNode) (builtins : List Text) (mark : Text) :
    Member.ofHover p.hover node builtins mark = p.member node builtins mark := by
  rw [Member.ofHover, if_pos (titleHas_hover hp), entity_hover hp, typeField_hover hp, className_hover hp]
  rfl

/-- **Hovers of data members are read back**, and the accessors that are written outside the class have
the parts that the hover was built from. -/
theorem ofHover_hover (hp : p.Valid) (node : Option SyntaxNode) (builtins : List Text) (mark indent : Text) :
    let m := Member.ofHover p.hover node builtins mark
    (m.declaredName = p.name ∧ m.type = p.type ∧ m.className = p.className) ∧
      Member.IsCanonical p.name mark m.canonicalName ∧
      (m.isBuiltin = true ↔
        (∃ n first more, node = some n ∧ n.children = first :: more ∧ first.kind = "Builtin".toList) ∨
          p.type = "std::size_t".toList ∨ p.type ∈ builtins) ∧
      (m.isBuiltin = true → m.writeAccessors ⟨.both, .inSource⟩ indent =
        Member.pair p.type p.className p.name m.canonicalName indent) ∧
      (m.isBuiltin = false → m.writeAccessors ⟨.both, .inSource⟩ indent =
        Member.pair ("const " ++ p.type ++ "&") p.className p.name m.canonicalName indent) := by
  intro m
  have hm : m = p.member node builtins mark := ofHover_eq hp node builtins mark
  have hcanonical : m.canonicalName = Member.canonical p.name mark := by rw [hm]; rfl
  have hcomplete : m.isComplete = true := by
    rw [hm]
    simp [Member.isComplete, member, hp.type.ne_nil, Member.canonical_ne_nil hp.name mark]
  have hline : '\n' ∉ m.canonicalName := by
    rw [hcanonical]
    exact fun h => hp.name_line ((Member.canonical_isSuffix p.name mark).subset h)
  have hpair : m.writeAccessors ⟨.both, .inSource⟩ indent =
      Member.pair m.passedType p.className p.name m.canonicalName indent := by
    have hwrite := Member.writeAccessors_both hcomplete (by rw [hm]; exact hp.type.line) hline indent
    rw [hwrite, hm]
    rfl
  refine ⟨by rw [hm]; exact ⟨rfl, rfl, rfl⟩, ?_, ?_, ?_, ?_⟩
  · rw [hcanonical]
    exact Member.isCanonical_canonical hp.name mark
  · rw [hm]
    exact Member.isBuiltinType_iff
  · intro hb
    rw [hpair, Member.passedType, if_pos hb, hm]
    rfl
  · intro hb
    rw [hpair, Member.passedType, if_neg (by simp [hb]), hm]
    rfl

/-- A member whose documentation gives another type and has code of its own. -/
def items : FieldHover where
  name := "m_items"
  titleEnd := "  "
  type := "std::vector<int>"
  className := "Canvas"
  body := [[], "---"]
  documentation := "  \nOffset: 8 bytes\nType: \x60int\x60\n\x60\x60\x60cpp\n// In Paper\n\x60\x60\x60\n"
  language := "cpp"
  declaration := some "private: std::vector<int> m_items"

theorem ofHover_hover_items :
    items.Valid ∧ (Member.ofHover items.hover none ["QString"] "m_").writeAccessors ⟨.both, .inSource⟩ "  " =
      [⟨"  const std::vector<int>& items() const;\n",
          "const std::vector<int>& Canvas::items() const\n\x7b\n    return this->m_items;\n\x7d\n"⟩,
        ⟨"  void setItems(const std::vector<int>& newItems);\n",
          "void Canvas::setItems(const std::vector<int>& newItems)\n\x7b\n    this->m_items = newItems;\n\x7d\n"⟩] := by
  have hp : items.Valid :=
    { name := by decide
      name_line := by decide
      name_quote := by decide
      titleEnd := by decide
      type := ⟨by decide, by decide, by decide⟩
      type_quote := by decide
      className := ⟨by decide, by decide, by decide⟩
      className_namespace := by decide
      body := by decide
      language_line := by decide
      language_quote := by decide
      fence := by decide }
  obtain ⟨-, hcanonical, hbuiltin, -, hwrite⟩ := ofHover_hover hp none ["QString"] "m_" "  "
  refine ⟨hp, ?_⟩
  rw [hwrite, hcanonical.stripped "items" (by decide) (by decide)]
  · decide +kernel
  · rw [Bool.eq_false_iff, ne_eq, hbuiltin]
    rintro (⟨n, -, -, hn, -⟩ | hsize | hmore)
    · cases hn
    · exact absurd hsize (by decide)
    · exact absurd hmore (by decide)

end FieldHover
end Classwright
