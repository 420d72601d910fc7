import Classwright.Generated.SpecialMember
import Classwright.Proofs.Generated.Accessor
/-!
# Two placements of one function

A function is written whole in the header, or declared there and defined in the source. Its first line stands
in the templates twice, plain and under the qualified name. Both placements have the same functions in the
same order: behind the indentation the plain forms have the same first line, the bodies are the same, and the
qualified line is the plain one with the class in front of the name, and without a specifier
(`inHeader_inSource`).
-/
namespace Classwright

open Text

/-! ## Lines behind an indentation -/

namespace Text

variable {indent : Text}

/-- The text with an indentation taken off each of its lines; none when a line is not behind it. What stands
behind the last line feed is not a line. -/
def unindentLines? (t indent : Text) : Option Text :=
  (t.pieces.dropLast.mapM (stripStart? · indent)).map fun ls => wholeLines ls ++ t.pieces.getLastD []

theorem isBlank_eq_false {t : Text} {c : Char} (hc : c ∈ t) (h : isBlankChar c = false) : t.isBlank = false :=
  List.all_eq_false.2 ⟨c, hc, by simp [h]⟩

theorem mapM_stripStart? (indent : Text) (ls : List Text) :
    (ls.map (indent ++ ·)).mapM (stripStart? · indent) = some ls := by
  induction ls with
  | nil => rfl
  | cons l rest ih => simp [ih]

/-- **Indented lines** are read back. -/
theorem unindentLines?_wholeLines {ls : List Text} (h : ∀ l ∈ ls, '\n' ∉ l) (hindent : '\n' ∉ indent) :
    (wholeLines (ls.map (indent ++ ·))).unindentLines? indent = some (wholeLines ls) := by
  have hls : ∀ l ∈ ls.map (indent ++ ·), '\n' ∉ l := by
    intro _ hmem hn
    obtain ⟨l, hl, rfl⟩ := List.mem_map.1 hmem
    exact (List.mem_append.1 hn).elim hindent (h l hl)
  rw [unindentLines?, pieces_wholeLines hls, List.dropLast_concat, mapM_stripStart?]
  simp

end Text

/-! ## Functions under a name -/

namespace FunctionParts

variable {p : FunctionParts} {className specifier name indent : Text}

def linesOf (head : Text) (body : List Text) : List Text :=
  head :: ['\x7b'] :: (body.map (bodyIndent ++ ·) ++ [['\x7d']])

theorem wholeLines_linesOf (head : Text) (body : List Text) : wholeLines (linesOf head body) = withBody head body := by
  simp [linesOf, wholeLines, withBody, block, List.flatMap_map]

/-- The function of a class under a name: outside the class the class stands in front of the name, and the
specifier does not stand there. -/
structure QualifiedAs (p : FunctionParts) (className specifier name : Text) : Prop where
  name : p.HasName name
  head : ∃ type, p.head = specifier ++ type ++ p.main ∧ p.qualifiedHead = type ++ className ++ "::" ++ p.main

/-- The first line and the statements are lines that are not blank. -/
structure IsTidy (p : FunctionParts) : Prop where
  head : '\n' ∉ p.head ∧ p.head.isBlank = false
  body : ∀ l ∈ p.body, '\n' ∉ l ∧ l.isBlank = false

theorem HasName.isBlank_head (h : p.HasName name) : p.head.isBlank = false := by
  obtain ⟨rest, hrest⟩ := h
  exact isBlank_eq_false (c := '(') (by simp [FunctionParts.head, hrest]) (by decide)

theorem IsTidy.linesOf (h : p.IsTidy) : ∀ l ∈ linesOf p.head p.body, '\n' ∉ l ∧ l.isBlank = false := by
  simp only [FunctionParts.linesOf, List.forall_mem_cons, List.forall_mem_append, List.forall_mem_map, List.not_mem_nil,
    false_imp_iff, implies_true, and_true]
  refine ⟨h.head, by decide, fun l hl => ⟨fun hn => ?_, ?_⟩, by decide⟩
  · exact (List.mem_append.1 hn).elim (by decide) (h.body l hl).1
  · rw [isBlank, List.all_append, ← isBlank, ← isBlank, (h.body l hl).2, Bool.and_false]

theorem IsTidy.declaration_inHeader (h : p.IsTidy) (indent : Text) :
    ((p.render .inHeader).indented indent).declaration =
      wholeLines ((FunctionParts.linesOf p.head p.body).map (indent ++ ·)) := by
  rw [← indentLines_wholeLines (fun l hl => (h.linesOf l hl).1) (fun l hl => (h.linesOf l hl).2), wholeLines_linesOf]
  rfl

def write (parts : List FunctionParts) (placement : Placement) (indent : Text) : List GeneratedFunction :=
  parts.map fun p => (p.render placement).indented indent

end FunctionParts

/-! ## Both placements -/

open FunctionParts GeneratedFunction

/-- Functions written for both placements from the same parts, under the given specifiers and names. -/
structure Placements (className indent : Text) (names : List (Text × Text)) (parts : List FunctionParts)
    (whole split : List GeneratedFunction) : Prop where
  names : parts.Forall₂ (fun p n => p.QualifiedAs className n.1 n.2) names
  length : whole.length = split.length
  inHeader : parts.Forall₂ (fun p f =>
    f.declaration.unindentLines? indent = some (p.head ++ '\n' :: block p.body) ∧ f.definition = []) whole
  inSource : parts.Forall₂ (fun p f =>
    f.declaration = indent ++ p.head ++ ";\n" ∧ f.definition = p.qualifiedHead ++ '\n' :: block p.body) split
  declarations : (declarationBlock whole).unindentLines? indent =
      some (parts.flatMap fun p => p.head ++ '\n' :: block p.body) ∧
    declarationBlock split = parts.flatMap fun p => (indent ++ p.head ++ ";\n" : Text)
  definitions : definitionBlock whole = [] ∧
    definitionBlock split = parts.flatMap fun p => '\n' :: (p.qualifiedHead ++ '\n' :: block p.body)

section

variable {className indent : Text} {names : List (Text × Text)} {parts : List FunctionParts}

theorem unindentLines?_declarationBlock (h : ∀ p ∈ parts, p.IsTidy) (hindent : '\n' ∉ indent) :
    (declarationBlock (write parts .inHeader indent)).unindentLines? indent =
      some (parts.flatMap fun p => withBody p.head p.body) := by
  have hblock : declarationBlock (write parts .inHeader indent) =
      wholeLines ((parts.flatMap fun p => linesOf p.head p.body).map (indent ++ ·)) := by
    rw [List.map_flatMap, wholeLines_flatMap, declarationBlock, write, List.flatMap_map]
    exact List.flatMap_congr fun p hp => (h p hp).declaration_inHeader indent
  have hlines : ∀ l ∈ parts.flatMap fun p => linesOf p.head p.body, '\n' ∉ l := fun l hl => by
    obtain ⟨p, hp, hl⟩ := List.mem_flatMap.1 hl
    exact ((h p hp).linesOf l hl).1
  rw [hblock, unindentLines?_wholeLines hlines hindent, wholeLines_flatMap]
  simp only [wholeLines_linesOf]

theorem definitionBlock_inHeader (parts : List FunctionParts) (indent : Text) :
    definitionBlock (write parts .inHeader indent) = [] := by
  rw [definitionBlock, List.filter_eq_nil_iff.2 fun f hf => ?_]
  · rfl
  · obtain ⟨p, -, rfl⟩ := List.mem_map.1 hf
    simp [indented, render]

/-- No definition in the source is empty, so none of them is left out. -/
theorem definitionBlock_inSource (parts : List FunctionParts) (indent : Text) :
    definitionBlock (write parts .inSource indent) =
      parts.flatMap fun p => '\n' :: (p.qualifiedHead ++ '\n' :: block p.body) := by
  rw [definitionBlock, List.filter_eq_self.2 fun f hf => ?_, write, List.flatMap_map]
  · rfl
  · obtain ⟨p, -, rfl⟩ := List.mem_map.1 hf
    simp [indented, render, withBody]

/-- **Functions of the same parts** for both placements. -/
theorem placements_write (hnames : parts.Forall₂ (fun p n => p.QualifiedAs className n.1 n.2) names)
    (h : ∀ p ∈ parts, p.IsTidy) (hindent : '\n' ∉ indent) :
    Placements className indent names parts (write parts .inHeader indent) (write parts .inSource indent) where
  names := hnames
  length := by simp [write]
  inHeader := by
    refine List.forall₂_map_right_iff.2 (List.forall₂_same.2 fun p hp => ⟨?_, rfl⟩)
    rw [(h p hp).declaration_inHeader, unindentLines?_wholeLines (fun l hl => ((h p hp).linesOf l hl).1) hindent,
      wholeLines_linesOf]
    rfl
  inSource := by
    refine List.forall₂_map_right_iff.2 (List.forall₂_same.2 fun p hp => ?_)
    rw [indented_render_inSource (h p hp).head.1]
    exact ⟨by simp, rfl⟩
  declarations := by
    refine ⟨unindentLines?_declarationBlock h hindent, ?_⟩
    rw [declarationBlock, write, List.flatMap_map]
    refine List.flatMap_congr fun p hp => ?_
    rw [indented_render_inSource (h p hp).head.1]
    simp
  definitions := ⟨definitionBlock_inHeader parts indent, definitionBlock_inSource parts indent⟩

end

/-! ## Accessors and special members -/

namespace Member

variable {m : Member}

/-- The facts on a member are each on one line. -/
structure IsSingleLine (m : Member) : Prop where
  type : '\n' ∉ m.type
  canonicalName : '\n' ∉ m.canonicalName
  declaredName : '\n' ∉ m.declaredName
  className : '\n' ∉ m.className

theorem qualifiedAs_getter (m : Member) : m.getter.QualifiedAs m.className [] m.getterName :=
  ⟨m.hasName_getter, m.passedType ++ " ", rfl, by simp [getter]⟩

theorem qualifiedAs_setter (m : Member) : m.setter.QualifiedAs m.className [] m.setterName :=
  ⟨m.hasName_setter, "void ", rfl, by simp [setter]⟩

theorem qualifiedAs_accessors (m : Member) (a : Accessor) : (m.accessors a).Forall₂
    (fun p n => p.QualifiedAs m.className n.1 n.2) ((m.accessorNames a).map ([], ·)) := by
  cases a with
  | getter => exact .cons m.qualifiedAs_getter .nil
  | setter => exact .cons m.qualifiedAs_setter .nil
  | both => exact .cons m.qualifiedAs_getter (.cons m.qualifiedAs_setter .nil)

theorem isTidy_getter (h : m.IsSingleLine) : m.getter.IsTidy where
  head := ⟨newline_notMem_head_getter h.type h.canonicalName, m.hasName_getter.isBlank_head⟩
  body := by
    rw [getter, List.forall_mem_singleton]
    exact ⟨by simp [h.declaredName], isBlank_eq_false (c := ';') (by simp) (by decide)⟩

theorem isTidy_setter (h : m.IsSingleLine) : m.setter.IsTidy where
  head := ⟨newline_notMem_head_setter h.type h.canonicalName, m.hasName_setter.isBlank_head⟩
  body := by
    simp only [setter, List.forall_mem_singleton]
    exact ⟨by simp [h.declaredName, newline_notMem_upperFirst h.canonicalName],
      isBlank_eq_false (c := ';') (by simp) (by decide)⟩

theorem isTidy_accessors (h : m.IsSingleLine) (a : Accessor) : ∀ p ∈ m.accessors a, p.IsTidy := by
  cases a <;> simp [accessors, isTidy_getter h, isTidy_setter h]

end Member

namespace SpecialMember

/-- What stands only inside the class in front of a special member. -/
def specifier : SpecialMember → Text
  | destructor => destructorSpecifier
  | _ => []

def functionName (name : Text) : SpecialMember → Text
  | constructor | copyConstructor | moveConstructor => name
  | destructor => '~' :: name
  | copyAssignment | moveAssignment => "operator="

/-- What stands in front of the name of a special member, with and without its class. -/
def resultType (name : Text) : SpecialMember → Text
  | copyAssignment | moveAssignment => name ++ "& "
  | _ => []

theorem hasName_parts (name : Text) (m : SpecialMember) : (m.parts name).HasName (m.functionName name) := by
  cases m with
  | constructor => exact ⟨")", rfl⟩
  | destructor => exact ⟨")", rfl⟩
  | copyConstructor => exact ⟨"const " ++ name ++ "& other)", by simp only [parts, List.append_assoc]; rfl⟩
  | moveConstructor => exact ⟨name ++ "&& other) noexcept", by simp only [parts, List.append_assoc]; rfl⟩
  | copyAssignment => exact ⟨"const " ++ name ++ "& other)", by simp only [parts, List.append_assoc]; rfl⟩
  | moveAssignment => exact ⟨name ++ "&& other) noexcept", by simp only [parts, List.append_assoc]; rfl⟩

theorem qualifiedAs_parts (name : Text) (m : SpecialMember) :
    (m.parts name).QualifiedAs name m.specifier (m.functionName name) := by
  refine ⟨hasName_parts name m, m.resultType name, ?_, ?_⟩
  · cases m <;> simp [parts, FunctionParts.head, specifier, resultType]
  · cases m <;> simp [parts, resultType]

theorem isTidy_parts {name : Text} (h : '\n' ∉ name) (m : SpecialMember) : (m.parts name).IsTidy where
  head := by
    have hspecifier : '\n' ∉ destructorSpecifier := by decide
    refine ⟨?_, (hasName_parts name m).isBlank_head⟩
    cases m <;> simp [parts, FunctionParts.head, hspecifier, h]
  body := by cases m <;> simp [parts]

end SpecialMember

/-- **Both placements have the same functions**: for each choice of accessors of a complete member, and for each
list of special members of a class. -/
theorem GeneratedFunction.inHeader_inSource (indent : Text) (hindent : '\n' ∉ indent) :
    (∀ (m : Member) (a : Accessor), m.isComplete = true → m.IsSingleLine →
      Placements m.className indent ((m.accessorNames a).map ([], ·)) (m.accessors a)
        (m.writeAccessors ⟨a, .inHeader⟩ indent) (m.writeAccessors ⟨a, .inSource⟩ indent)) ∧
    ∀ (members : List SpecialMember) (name : Text), name ≠ [] → '\n' ∉ name →
      Placements name indent (members.map fun m => (m.specifier, m.functionName name)) (members.map (·.parts name))
        (SpecialMember.write members name .inHeader indent) (SpecialMember.write members name .inSource indent) := by
  refine ⟨fun m a hm h => ?_, fun members name hne hn => ?_⟩
  · have hwrite (p : Placement) : m.writeAccessors ⟨a, p⟩ indent = write (m.accessors a) p indent := if_pos hm
    rw [hwrite, hwrite]
    exact placements_write (m.qualifiedAs_accessors a) (Member.isTidy_accessors h a) hindent
  · have hwrite (p : Placement) :
        SpecialMember.write members name p indent = write (members.map (·.parts name)) p indent := by
      rw [SpecialMember.write, if_neg (by simpa using hne), write, List.map_map]
      rfl
    rw [hwrite, hwrite]
    refine placements_write ?_ (by simp [SpecialMember.isTidy_parts hn]) hindent
    rw [List.forall₂_map_left_iff, List.forall₂_map_right_iff, List.forall₂_same]
    exact fun m _ => m.qualifiedAs_parts name

/-- The getter of a counter and its destructor. -/
theorem GeneratedFunction.inHeader_inSource_counter :
    let m : Member := ⟨"int", "count", "m_count", "Counter", true⟩
    let getter := fun p => m.writeAccessors ⟨.getter, p⟩ "  "
    let destructor := fun p => SpecialMember.write [.destructor] "Counter" p "  "
    (m.isComplete = true ∧ m.IsSingleLine ∧
      getter .inHeader = [⟨"  int count() const\n  \x7b\n      return this->m_count;\n  \x7d\n", []⟩] ∧
      Placements "Counter" "  " [([], "count")] [m.getter] (getter .inHeader) (getter .inSource)) ∧
    destructor .inSource = [⟨"  virtual ~Counter();\n", "Counter::~Counter()\n\x7b\n\x7d\n"⟩] ∧
      Placements "Counter" "  " [("virtual ", "~Counter")] [SpecialMember.destructor.parts "Counter"]
        (destructor .inHeader) (destructor .inSource) := by
  intro m getter destructor
  have hm : m.IsSingleLine := ⟨by decide, by decide, by decide, by decide⟩
  obtain ⟨haccessors, hmembers⟩ := inHeader_inSource "  " (by decide)
  exact ⟨⟨by decide, hm, by decide +kernel, haccessors m .getter (by decide) hm⟩, by decide +kernel,
    hmembers [.destructor] "Counter" (by decide) (by decide)⟩

end Classwright
