import Classwright.Proofs.Hover
import Classwright.Proofs.Signature.Declaration
import Classwright.Proofs.Signature.Title
/-!
# Hovers of functions are read back

A language server builds the hover of a function from a few parts: a title, some documentation, and
code with the scope, the qualifiers, the return type, the name, the parameters and what follows them.
The signature that is read off such a hover has exactly these parts (`ofHover?_hover`), whatever the
documentation and the parameters say.
-/
namespace Classwright

open Text Declaration

/-- A function with its scope and its return type. -/
inductive Entity where
  | constructor (className : Text)
  | staticMethod (className type : Text)
  | method (className type : Text)
  | freeFunction (namespaceName : Option Text) (type : Text)

namespace Entity

def kind : Entity → SignatureKind
  | constructor _ => .constructor
  | staticMethod .. => .staticMethod
  | method .. => .method
  | freeFunction .. => .freeFunction

def keyword : Entity → Text
  | constructor _ => "constructor"
  | staticMethod .. => "static-method"
  | method .. => "instance-method"
  | freeFunction .. => "function"

def className? : Entity → Option Text
  | constructor c | staticMethod c _ | method c _ => some c
  | freeFunction .. => none

def namespaceName? : Entity → Option Text
  | freeFunction n _ => n
  | _ => none

def type? : Entity → Option Text
  | constructor _ => none
  | staticMethod _ t | method _ t | freeFunction _ t => some t

/-- What follows the mark in the comment on the scope. -/
def scope? : Entity → Option Text
  | constructor c | staticMethod c _ | method c _ => some c
  | freeFunction n _ => n.map ("namespace " ++ ·)

theorem keyword_mem (e : Entity) : (e.keyword, e.kind) ∈ SignatureKind.keywords := by
  unfold keyword kind
  cases e <;> dsimp only <;> decide

end Entity

structure FunctionHover where
  entity : Entity
  name : Text
  documentation : Text
  access : Option Text
  modifier : Option Text
  parameters : Text
  /-- What follows the parameters and belongs to the definition as well. -/
  trailing : Text
  suffixes : List Text

namespace FunctionHover

/-- The function with its parameters and what follows them. -/
def main (p : FunctionHover) : Text :=
  p.name ++ "(" ++ (p.parameters ++ ')' :: (if p.trailing = [] then [] else ' ' :: p.trailing))

/-- What stands in front of the name. -/
def words (p : FunctionHover) : List Text := p.access.toList ++ p.modifier.toList ++ p.entity.type?.toList

def line (p : FunctionHover) : Text := spaced p.words ++ withSuffixes p.main p.suffixes

def code (p : FunctionHover) : Text :=
  match p.entity.scope? with
  | some scope => Hover.scopeMark ++ scope ++ '\n' :: p.line
  | none => p.line

def hover (p : FunctionHover) : Hover :=
  ⟨Hover.titleOf p.entity.keyword p.name ++ '\n' :: (p.documentation ++ "\n" ++ Hover.codeBlock p.code)⟩

def signature (p : FunctionHover) : Signature :=
  ⟨p.entity.kind, p.entity.type?.getD [], p.name, p.entity.className?.getD [], p.entity.namespaceName?.getD [], p.main⟩

/-- How the definition is written. -/
def definition (p : FunctionHover) : Text :=
  (match p.entity with
    | .constructor c => c ++ "::" ++ p.main
    | .staticMethod c t | .method c t => t ++ " " ++ c ++ "::" ++ p.main
    | .freeFunction (some n) t => t ++ " " ++ n ++ "::" ++ p.main
    | .freeFunction none t => t ++ " " ++ p.main) ++ "\n\x7b\n\x7d\n"

/-- How the declaration is written. -/
def declaration (p : FunctionHover) : Text :=
  (match p.entity with
    | .constructor _ => p.main
    | .staticMethod _ t => "static " ++ t ++ " " ++ p.main
    | .method _ t | .freeFunction _ t => t ++ " " ++ p.main) ++ ";"

end FunctionHover

/-! ## Well-formed parts -/

/-- One line of text without white space at its ends. -/
structure Text.IsPhrase (t : Text) : Prop where
  ne_nil : t ≠ []
  line : '\n' ∉ t
  trim : t.trim = t

/-- A return type that a reader can tell from what stands around it. -/
structure IsReturnType (name type : Text) : Prop extends type.IsPhrase where
  comment : ¬ "//".toList <+: type
  qualifier : ∀ k ∈ qualifiers, ¬ k <:+: type
  call : ¬ (name ++ "(" : Text) <:+: type

/-- The conditions on the parts of a hover. Nothing is said of the documentation. -/
structure FunctionHover.Valid (p : FunctionHover) : Prop where
  name : p.name.IsIdentifier
  name_constructor : p.name.has "constructor" = false
  name_class : p.name.has "class" = false
  className : ∀ c ∈ p.entity.className?, c.IsPhrase ∧ ¬ "namespace ".toList <+: c
  namespaceName : ∀ n ∈ p.entity.namespaceName?, n.IsPhrase
  type : ∀ t ∈ p.entity.type?, IsReturnType p.name t
  access : ∀ a ∈ p.access, a ∈ accessWords
  modifier : ∀ m ∈ p.modifier, m ∈ modifierWords
  parameters : '\n' ∉ p.parameters
  trailing_line : '\n' ∉ p.trailing
  trailing_trim : p.trailing.trim = p.trailing
  trailing_suffix : ∀ s ∈ declarationOnly, ¬ s <:+ p.trailing
  suffixes : ∀ s ∈ p.suffixes, s ∈ declarationOnly
  fence : p.code.has Hover.fence = false
  template : templateMarks.any p.code.has = false

namespace FunctionHover

variable {p : FunctionHover}

/-! ## The function and what follows it -/

theorem tightEnd_main (hp : p.Valid) : p.main.TightEnd := by
  refine TightEnd.append (TightEnd.append ?_ _) _
  by_cases h : p.trailing = []
  · rw [if_pos h]
    exact ⟨[], ')', rfl, by decide⟩
  · rw [if_neg h]
    exact (tightEnd_of_trim hp.trailing_trim h).append [')', ' ']

theorem not_suffix_main (hp : p.Valid) : ∀ s ∈ declarationOnly, ¬ s <:+ p.main := by
  intro s hs h
  have hc : s ≠ [] ∧ ')' ∉ s ∧ ∀ t : Text, s ≠ ' ' :: t := by
    simp only [declarationOnly, List.mem_cons, List.not_mem_nil, or_false] at hs
    rcases hs with rfl | rfl | rfl <;> exact ⟨by decide, by decide, by simp⟩
  unfold main at h
  rw [← List.append_assoc, isSuffix_append_cons_iff hc.2.1] at h
  split at h
  · exact hc.1 (List.suffix_nil.1 h)
  · rcases List.suffix_cons_iff.1 h with h | h
    · exact hc.2.2 _ h
    · exact hp.trailing_suffix s hs h

/-- The function begins with its name and a parenthesis. -/
theorem main_eq (p : FunctionHover) : ∃ rest, withSuffixes p.main p.suffixes = (p.name ++ "(") ++ rest :=
  ⟨_, by rw [withSuffixes, main, List.append_assoc]⟩

/-- What holds of each word in front of the name. -/
theorem words_spec (hp : p.Valid) {w : Text} (hw : w ∈ p.words) :
    '\n' ∉ w ∧ w.TightStart ∧ ¬ "//".toList <+: w ∧ ¬ (p.name ++ "(" : Text) <:+: w := by
  have hfixed : ∀ w ∈ accessWords ++ modifierWords, '\n' ∉ w ∧ w.trim = w ∧ w ≠ [] ∧ ¬ "//".toList <+: w ∧ '(' ∉ w := by
    decide
  simp only [words, List.mem_append, Option.mem_toList] at hw
  rcases hw with hw | hw
  · have hmem : w ∈ accessWords ++ modifierWords := List.mem_append.2 (hw.imp (hp.access w) (hp.modifier w))
    obtain ⟨h1, h2, h3, h4, h5⟩ := hfixed w hmem
    exact ⟨h1, tightStart_of_trim h2 h3, h4, fun h => h5 (h.subset (by simp))⟩
  · have ht := hp.type w hw
    exact ⟨ht.line, tightStart_of_trim ht.trim ht.ne_nil, ht.comment, ht.call⟩

theorem notMem_line (hp : p.Valid) : '\n' ∉ p.line := by
  have hs : ∀ s ∈ declarationOnly, '\n' ∉ s := by decide
  have hn : '\n' ∉ p.name := hp.name.notMem (by decide)
  have hm : '\n' ∉ p.main := by
    unfold main
    split <;> simp [hn, hp.parameters, hp.trailing_line]
  intro h
  simp only [line, spaced, withSuffixes, List.mem_append, List.mem_flatMap] at h
  rcases h with ⟨w, hw, h | h⟩ | h | ⟨s, hmem, h⟩
  · exact (words_spec hp hw).1 h
  · simp at h
  · exact hm h
  · exact hs s (hp.suffixes s hmem) (by simpa using h)

theorem isComment_line (hp : p.Valid) : isComment p.line = false := by
  obtain ⟨rest, hrest⟩ := p.main_eq
  have e : p.line = spaced p.words ++ (p.name ++ '(' :: rest) := by rw [line, hrest, List.append_assoc]; rfl
  rw [e]
  cases hw : p.words with
  | nil =>
    obtain ⟨c, more, hc⟩ := List.exists_cons_of_ne_nil hp.name.1
    have hstart : p.name.TightStart := ⟨c, more, hc, hp.name.not_blank (by simp [hc])⟩
    have hslash : ¬ "//".toList <+: p.name := fun h =>
      hp.name.notMem (c := '/') (by decide) (h.subset (by simp))
    exact isComment_append_cons hstart (by decide) hslash rest
  | cons w ws =>
    obtain ⟨-, h1, h2, -⟩ := words_spec (p := p) hp (w := w) (by simp [hw])
    rw [spaced_cons, List.append_assoc, List.cons_append]
    exact isComment_append_cons h1 (by decide) h2 _

/-! ## Reading the code -/

theorem tightEnd_line (hp : p.Valid) : p.line.TightEnd :=
  (tightEnd_withSuffixes (tightEnd_main hp) hp.suffixes).append _

theorem tightEnd_code (hp : p.Valid) : p.code.TightEnd := by
  unfold code
  split
  · exact ((tightEnd_line hp).append ['\n']).append _
  · exact tightEnd_line hp

theorem code_hover (hp : p.Valid) : p.hover.code = some p.code := by
  have hf : ¬ Hover.fence <:+: p.code := by
    rw [← has_iff, hp.fence]
    exact Bool.false_ne_true
  have := Hover.fencedCode_codeBlock hf (tightEnd_code hp)
    (Hover.titleOf p.entity.keyword p.name ++ '\n' :: (p.documentation ++ "\n"))
  rw [Hover.code, hover]
  rwa [List.append_assoc, List.cons_append] at this

/-- The scope is on a line of its own. -/
theorem scope_spec (hp : p.Valid) {s : Text} (hs : p.entity.scope? = some s) : '\n' ∉ s ∧ s.TightEnd := by
  have hphrase : ∀ {t : Text}, t.IsPhrase → '\n' ∉ t ∧ t.TightEnd := fun h => ⟨h.line, tightEnd_of_trim h.trim h.ne_nil⟩
  have hc := hp.className
  have hn := hp.namespaceName
  cases he : p.entity with
  | freeFunction n t =>
    rw [he] at hs hn
    obtain ⟨n, rfl, rfl⟩ := Option.map_eq_some_iff.1 hs
    obtain ⟨h1, h2⟩ := hphrase (hn n rfl)
    exact ⟨by simp [h1], h2.append _⟩
  | _ =>
    rw [he] at hs hc
    cases hs
    exact hphrase (hc s rfl).1

/-- The line of the function is the only one in the code that is no comment. -/
theorem filter_lines_code (hp : p.Valid) : p.code.lines.filter (!isComment ·) = [p.line] := by
  have hline : p.line.lines = [p.line] := lines_of_notMem (notMem_line hp) (tightEnd_line hp).ne_nil
  have hfilter : [p.line].filter (!isComment ·) = [p.line] := by simp [isComment_line hp]
  unfold code
  split
  · next s hs =>
    obtain ⟨h1, h2⟩ := scope_spec hp hs
    have hn : '\n' ∉ Hover.scopeMark ++ s := by
      rw [List.mem_append, not_or]
      exact ⟨by decide, h1⟩
    have hc : isComment (Hover.scopeMark ++ s) = true := by
      have hstart : TightStart (Hover.scopeMark ++ s) := TightStart.append ⟨'/', "/ In ", rfl, by decide⟩ s
      rw [isComment, hstart.trimStart, startsWith_iff]
      exact ⟨" In ".toList ++ s, rfl⟩
    rw [lines_append_cons hn, (h2.append _).dropReturn, hline, List.filter_cons_of_neg (by simp [hc]), hfilter]
  · rw [hline, hfilter]

theorem declarationLine_code (hp : p.Valid) :
    declarationLine p.code p.name = some (spaced p.words, withSuffixes p.main p.suffixes) := by
  obtain ⟨rest, hrest⟩ := p.main_eq
  have hs : ' ' ∉ (p.name ++ "(" : Text) := by
    rw [List.mem_append, not_or]
    exact ⟨hp.name.notMem (by decide), by decide⟩
  refine declarationLine_eq (filter_lines_code hp) ?_
  rw [line, hrest]
  exact findIdentifier_spaced (by simp) hs (fun w hw => (words_spec hp hw).2.2.2) rest

theorem functionMain_code (hp : p.Valid) : functionMain p.code p.name = some p.main := by
  have hne : p.name.isEmpty = false := by simpa using hp.name.1
  rw [functionMain, hne, declarationLine_code hp]
  have := withoutSuffixes_withSuffixes (tightEnd_main hp) (not_suffix_main hp) hp.suffixes
  simp [this]

theorem returnType_code (hp : p.Valid) {t : Text} (ht : p.entity.type? = some t) :
    returnType p.code p.name = some t := by
  have hspec := hp.type t ht
  rw [returnType_eq hp.template (declarationLine_code hp), words, ht, Option.toList_some,
    trim_afterQualifier hp.access hp.modifier hspec.qualifier, hspec.trim]

/-! ## Reading the hover -/

theorem title_hover (hp : p.Valid) :
    SignatureKind.classify p.hover.title = p.entity.kind ∧ p.hover.entity = some p.name := by
  obtain ⟨-, hkn, -, -, hkq⟩ := SignatureKind.keyword_chars p.entity.keyword_mem
  have ht : p.hover.title = Hover.titleOf p.entity.keyword p.name :=
    Hover.title_of_hover hkn (hp.name.notMem (by decide)) _
  have hr : p.entity.kind.readAs p.name = p.entity.kind := by
    rw [SignatureKind.readAs_eq_iff, hp.name_constructor, hp.name_class]
    simp
  rw [ht, SignatureKind.classify_titleOf p.entity.keyword_mem hp.name, hr]
  exact ⟨rfl, Hover.entity_of_hover hkn hkq hp.name _⟩

theorem scopeLine_hover (hp : p.Valid) {s : Text} (hs : p.entity.scope? = some s) :
    p.hover.scopeLine = some (Hover.scopeMark ++ s) := by
  obtain ⟨h1, h2⟩ := scope_spec hp hs
  have hc : p.hover.code = some (Hover.scopeMark ++ s ++ '\n' :: p.line) := by rw [code_hover hp, code, hs]
  exact Hover.scopeLine_of_scope hc h1 h2

/-- Without a comment on the scope the line of the function is the only one, and it is no comment. -/
theorem scopeLine_hover_none (hp : p.Valid) (hs : p.entity.scope? = none) : p.hover.scopeLine = none := by
  have hc : p.hover.code = some p.line := by rw [code_hover hp, code, hs]
  refine Hover.scopeLine_of_line hc (notMem_line hp) (tightEnd_line hp).ne_nil fun h => ?_
  have hstart : "//".toList <+: p.line.trimStart :=
    (show "//".toList <+: Hover.scopeMark from ⟨" In ", rfl⟩).trans (h.trans (trimEnd_isPrefix _))
  have hn := isComment_line hp
  rw [isComment, startsWith_iff.2 hstart] at hn
  cases hn

theorem className_hover (hp : p.Valid) {c : Text} (hc : p.entity.className? = some c) : p.hover.className = some c := by
  obtain ⟨hphrase, hn⟩ := hp.className c hc
  have hs : p.entity.scope? = some c := by
    cases he : p.entity <;> rw [he] at hc <;> cases hc <;> rfl
  exact Hover.className_of_scopeLine (scopeLine_hover hp hs) hphrase.trim hphrase.ne_nil hn

theorem namespaceName_hover (hp : p.Valid) {n : Option Text} {t : Text} (he : p.entity = .freeFunction n t) :
    p.hover.namespaceName = n := by
  cases n with
  | some n =>
    have hphrase := hp.namespaceName n (by rw [he]; rfl)
    have hs := scopeLine_hover hp (s := "namespace " ++ n) (by rw [he]; rfl)
    exact Hover.namespaceName_of_scopeLine hs hphrase.trim hphrase.ne_nil
  | none =>
    have hs := scopeLine_hover_none hp (by rw [he]; rfl)
    rw [Hover.namespaceName, hs]
    rfl

theorem ofHover?_eq (hp : p.Valid) : Signature.ofHover? p.hover = some p.signature := by
  obtain ⟨hkind, hname⟩ := title_hover hp
  have hmain := functionMain_code hp
  unfold Signature.ofHover? signature
  rw [hkind, hname, code_hover hp]
  simp only [Option.bind_eq_bind, Option.bind_some]
  cases he : p.entity with
  | constructor c =>
    have hc := className_hover hp (c := c) (by rw [he]; rfl)
    simp [Entity.kind, Entity.type?, Entity.className?, Entity.namespaceName?, hc, hmain]
  | staticMethod c t | method c t =>
    have hc := className_hover hp (c := c) (by rw [he]; rfl)
    have ht := returnType_code hp (t := t) (by rw [he]; rfl)
    simp [Entity.kind, Entity.type?, Entity.className?, Entity.namespaceName?, hc, ht, hmain]
  | freeFunction n t =>
    have hn := namespaceName_hover hp he
    have ht := returnType_code hp (t := t) (by rw [he]; rfl)
    simp [Entity.kind, Entity.type?, Entity.className?, Entity.namespaceName?, hn, ht, hmain]

theorem typed_eq (hp : p.Valid) {t : Text} (ht : p.entity.type? = some t) (rest : Text) :
    Signature.typed t rest = t ++ " " ++ rest := by
  have hne : t.isEmpty = false := by simpa using (hp.type t ht).ne_nil
  rw [Signature.typed, hne, List.append_assoc]
  rfl

theorem definition_eq (hp : p.Valid) : p.signature.definition = p.definition := by
  have hk : p.signature.kind ≠ .unknown := by
    unfold signature
    cases p.entity <;> exact nofun
  rw [Signature.definition, if_neg hk]
  unfold definition Signature.head signature Signature.emptyBody Signature.inScope
  congr 1
  cases he : p.entity with
  | constructor c => rfl
  | staticMethod c t | method c t =>
    exact (typed_eq hp (t := t) (by rw [he]; rfl) _).trans (by simp [Entity.className?])
  | freeFunction n t =>
    refine (typed_eq hp (t := t) (by rw [he]; rfl) _).trans ?_
    cases n with
    | none => rfl
    | some n =>
      have hne : n.isEmpty = false := by simpa using (hp.namespaceName n (by rw [he]; rfl)).ne_nil
      simp [Entity.namespaceName?, hne]

theorem declaration_eq (hp : p.Valid) : p.signature.declaration = p.declaration := by
  unfold declaration Signature.declaration signature
  cases he : p.entity with
  | constructor c => rfl
  | staticMethod c t =>
    have ht := typed_eq hp (t := t) (by rw [he]; rfl) p.main
    simp [Entity.kind, Entity.type?, ht]
  | method c t | freeFunction n t =>
    have ht := typed_eq hp (t := t) (by rw [he]; rfl) p.main
    simp [Entity.kind, Entity.type?, ht]

/-- **Hovers of functions are read back.** The signature that is read off a hover has the parts that
the hover was built from, and it is written with them as a definition and as a declaration. -/
theorem ofHover?_hover (hp : p.Valid) :
    Signature.ofHover? p.hover = some p.signature ∧ p.signature.definition = p.definition ∧
      p.signature.declaration = p.declaration :=
  ⟨ofHover?_eq hp, definition_eq hp, declaration_eq hp⟩

/-- A function whose documentation has code of its own and whose parameters mention the function. -/
def paint : FunctionHover where
  entity := .method "Canvas" "const std::vector<int> &"
  name := "paint"
  documentation := "\nDraws.\n\x60\x60\x60cpp\nint paint(int x) = 0\n\x60\x60\x60\n"
  access := some "public:"
  modifier := some "virtual"
  parameters := "int n = paint(1)"
  trailing := "const"
  suffixes := ["override", "final"]

theorem ofHover?_hover_paint :
    paint.Valid ∧ (Signature.ofHover? paint.hover).map Signature.definition =
      some "const std::vector<int> & Canvas::paint(int n = paint(1)) const\n\x7b\n\x7d\n".toList := by
  have hphrase : ∀ t ∈ (["Canvas", "const std::vector<int> &"] : List Text), t.IsPhrase := by
    have h : ∀ t ∈ (["Canvas", "const std::vector<int> &"] : List Text), t ≠ [] ∧ '\n' ∉ t ∧ t.trim = t := by decide
    exact fun t ht => ⟨(h t ht).1, (h t ht).2.1, (h t ht).2.2⟩
  have hp : paint.Valid :=
    { name := ⟨by decide, by decide⟩
      name_constructor := by decide
      name_class := by decide
      className := by
        rintro c ⟨⟩
        exact ⟨hphrase _ (by simp), by decide⟩
      namespaceName := nofun
      type := by
        rintro t ⟨⟩
        exact ⟨hphrase _ (by simp), by decide, by decide, by decide⟩
      access := by decide
      modifier := by decide
      parameters := by decide
      trailing_line := by decide
      trailing_trim := by decide
      trailing_suffix := by decide
      suffixes := by decide
      fence := by decide
      template := by decide }
  obtain ⟨h, hd, -⟩ := ofHover?_hover hp
  refine ⟨hp, ?_⟩
  rw [h, Option.map_some, hd]
  decide

end FunctionHover
end Classwright
