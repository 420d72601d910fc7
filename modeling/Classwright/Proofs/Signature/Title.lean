import Classwright.Member
import Classwright.Proofs.Text.Lines
import Classwright.Proofs.Text.Search
import Classwright.Proofs.Text.Trim
import Classwright.Signature.Basic
/-!
# Titles of hovers

A title names a kind by its keyword and quotes the name of the entity. The keywords are looked for in
the whole title, so those that occur in the name count as well: a title of an identifier is read as
another kind exactly when the identifier has a keyword that is tried before the right one
(`kind_of_title`).
-/
namespace Classwright

/-- The title of an entity: a heading with its keyword and its name in backticks. -/
def Hover.titleOf (key name : Text) : Text := "### " ++ key ++ " \x60" ++ name ++ "\x60"

/-- What a title of an entity of the kind is read as. -/
def SignatureKind.readAs (kind : SignatureKind) (name : Text) : SignatureKind :=
  if name.has "constructor" then constructor
  else if kind = freeFunction ∧ name.has "class" then destructor
  else kind

variable {key name m : Text} {kind : SignatureKind} {c : Char}

/-! ## Searching a title -/

namespace Hover

/-- A marker without the characters around the keyword and the name is in one of the two. -/
theorem has_titleOf (hm : m ≠ []) (hh : '#' ∉ m) (hs : ' ' ∉ m) (hq : '\x60' ∉ m) :
    (titleOf key name).has m = (key.has m || name.has m) := by
  have hn : ¬ m <:+: ['#', '#', '#'] := by
    intro hi
    obtain ⟨c, m, rfl⟩ := List.exists_cons_of_ne_nil hm
    have hc : c ∈ ['#', '#', '#'] := hi.subset (by simp)
    simp only [List.mem_cons, List.not_mem_nil, or_false, or_self] at hc
    exact hh (by simp [hc])
  have ht : titleOf key name = ['#', '#', '#'] ++ ' ' :: (key ++ ' ' :: ([] ++ '\x60' :: (name ++ '\x60' :: []))) := by
    unfold titleOf
    simp
  rw [Bool.eq_iff_iff, Bool.or_eq_true, Text.has_iff, Text.has_iff, Text.has_iff, ht,
    Text.isInfix_append_cons_iff hs, Text.isInfix_append_cons_iff hs, Text.isInfix_append_cons_iff hq,
    Text.isInfix_append_cons_iff hq, List.infix_nil]
  simp [hn, hm]

theorem notMem_titleOf (hk : '\n' ∉ key) (hn : '\n' ∉ name) : '\n' ∉ titleOf key name := by
  unfold titleOf
  simp [hk, hn]

theorem tightEnd_titleOf (key name : Text) : (titleOf key name).TightEnd := Text.TightEnd.append ⟨[], '\x60', rfl, by decide⟩ _

/-- The title is the first line of a hover, also when something is behind the name. -/
theorem title_of_titleOf {tail : Text} (hk : '\n' ∉ key) (hn : '\n' ∉ name) (ht : '\n' ∉ tail) (body : Text) :
    Hover.title ⟨titleOf key name ++ (tail ++ '\n' :: body)⟩ = titleOf key name ++ tail.dropReturn := by
  have hline : '\n' ∉ titleOf key name ++ tail := by
    rw [List.mem_append, not_or]
    exact ⟨notMem_titleOf hk hn, ht⟩
  rw [Hover.title, ← List.append_assoc, Text.lines_append_cons hline, List.headD_cons, (tightEnd_titleOf key name).dropReturn_append]

theorem title_of_hover (hk : '\n' ∉ key) (hn : '\n' ∉ name) (body : Text) :
    Hover.title ⟨titleOf key name ++ '\n' :: body⟩ = titleOf key name := by
  have ht := title_of_titleOf hk hn (List.not_mem_nil (a := '\n')) body
  rwa [List.nil_append, show Text.dropReturn [] = [] from rfl, List.append_nil] at ht

/-- A name between backticks is the one that a title quotes. -/
theorem quotedName_titleOf (hk : '\x60' ∉ key) (hq : '\x60' ∉ name) (hne : name ≠ []) (tail : Text) :
    quotedName (titleOf key name ++ tail) = some name := by
  have ht : titleOf key name ++ tail = ("### ".toList ++ key ++ [' ']) ++ '\x60' :: (name ++ '\x60' :: tail) := by
    unfold titleOf
    simp
  have hcut : (titleOf key name ++ tail).cut? quote = some ("### ".toList ++ key ++ [' '], name ++ '\x60' :: tail) := by
    rw [ht]
    exact Text.cut?_char (by simp [hk]) _
  have hcut' : Text.cut? (name ++ '\x60' :: tail) quote = some (name, tail) := Text.cut?_char hq tail
  rw [quotedName, hcut]
  simp only [Option.bind_eq_bind, Option.bind_some, hcut', Text.nonEmpty?, List.isEmpty_iff, hne, if_false]

theorem entity_of_hover (hk : '\n' ∉ key) (hk' : '\x60' ∉ key) (hn : name.IsIdentifier) (body : Text) :
    Hover.entity ⟨titleOf key name ++ '\n' :: body⟩ = some name := by
  have hquoted := quotedName_titleOf hk' (hn.notMem (by decide)) hn.1 []
  rwa [Hover.entity, title_of_hover hk (hn.notMem (by decide)), ← List.append_nil (titleOf key name)]

end Hover

/-! ## The kind that a title names -/

namespace SignatureKind

theorem keyword_chars (hk : (key, kind) ∈ keywords) :
    key ≠ [] ∧ '\n' ∉ key ∧ '#' ∉ key ∧ ' ' ∉ key ∧ '\x60' ∉ key := by
  have h : ∀ e ∈ keywords, e.1 ≠ [] ∧ '\n' ∉ e.1 ∧ '#' ∉ e.1 ∧ ' ' ∉ e.1 ∧ '\x60' ∉ e.1 := by decide
  exact h _ hk

/-- A keyword that is looked for in a title is the one of the title or in the name. -/
theorem has_titleOf_keyword (hk : (key, kind) ∈ keywords) {key' : Text} {kind' : SignatureKind}
    (hk' : (key', kind') ∈ keywords) : (Hover.titleOf key name).has key' = (key == key' || name.has key') := by
  have h : ∀ e ∈ keywords, ∀ e' ∈ keywords, e.1.has e'.1 = (e.1 == e'.1) := by decide
  obtain ⟨h0, -, h1, h2, h3⟩ := keyword_chars hk'
  rw [Hover.has_titleOf h0 h1 h2 h3, h _ hk _ hk']

/-- Identifiers have no keyword with a hyphen. -/
theorem has_eq_false_of_hyphen (hn : name.IsIdentifier) (hm : '-' ∈ m) : name.has m = false := by
  rw [Bool.eq_false_iff, ne_eq, Text.has_iff]
  exact fun h => hn.notMem (by decide) (h.subset hm)

theorem classify_titleOf (hk : (key, kind) ∈ keywords) (hn : name.IsIdentifier) :
    classify (Hover.titleOf key name) = kind.readAs name := by
  have h (key' kind') (hk' : (key', kind') ∈ keywords) :
      (Hover.titleOf key name).has key' = (key == key' || name.has key') := has_titleOf_keyword hk hk'
  have h1 := h "constructor" constructor (by decide)
  have h2 := h "static-method" staticMethod (by decide)
  have h3 := h "instance-method" method (by decide)
  have h4 := h "class" destructor (by decide)
  have h5 := h "function" freeFunction (by decide)
  rw [has_eq_false_of_hyphen hn (by decide), Bool.or_false] at h2 h3
  unfold classify keywords readAs
  simp only [List.find?_cons, List.find?_nil, h1, h2, h3, h4, h5]
  simp only [keywords, List.mem_cons, Prod.mk.injEq, List.not_mem_nil, or_false] at hk
  rcases hk with ⟨rfl, rfl⟩ | ⟨rfl, rfl⟩ | ⟨rfl, rfl⟩ | ⟨rfl, rfl⟩ | ⟨rfl, rfl⟩ <;>
    cases name.has "constructor" <;> cases name.has "class" <;> rfl

end SignatureKind

/-! ## What is read off a hover with such a title -/

theorem Signature.kind_of_ofHover? {h : Hover} {s : Signature} (hs : ofHover? h = some s) :
    s.kind = SignatureKind.classify h.title := by
  unfold ofHover? at hs
  generalize SignatureKind.classify h.title = k at hs ⊢
  cases k <;> simp [Option.bind_eq_some_iff] at hs
  case constructor =>
    obtain ⟨_, -, _, -, _, -, rfl⟩ := hs
    rfl
  case destructor =>
    obtain ⟨_, -, _, -, rfl⟩ := hs
    rfl
  all_goals
    obtain ⟨_, -, _, -, _, -, _, -, rfl⟩ := hs
    rfl

/-- A member is known by its name when the title says that it is a field. -/
theorem Member.ofHover_eq_unknown_iff {h : Hover} (hne : name ≠ []) (he : h.entity = some name)
    (node : Option SyntaxNode) (builtins : List Text) (mark : Text) :
    ofHover h node builtins mark = unknown ↔ h.titleHas "field" = false := by
  unfold ofHover unknown
  rw [he]
  cases h.titleHas "field" <;> simp [hne]

theorem SignatureKind.readAs_eq_iff :
    kind.readAs name = kind ↔
      (name.has "constructor" = true → kind = constructor) ∧ (name.has "class" = true → kind ≠ freeFunction) := by
  unfold readAs
  cases kind <;> cases name.has "constructor" <;> cases name.has "class" <;> decide

/-- **The kind that a title is read as** is the one of its keyword, unless the identifier that it quotes
has a keyword that is tried before. The name of a field counts in the same way. -/
theorem SignatureKind.kind_of_title (hk : (key, kind) ∈ keywords) (hn : name.IsIdentifier) (body : Text) :
    let h : Hover := ⟨Hover.titleOf key name ++ '\n' :: body⟩
    classify (Hover.titleOf key name) = kind.readAs name ∧
      (kind.readAs name = kind ↔
        (name.has "constructor" = true → kind = constructor) ∧ (name.has "class" = true → kind ≠ freeFunction)) ∧
      h.titleHas "field" = name.has "field" ∧
      (∀ node builtins mark, Member.ofHover h node builtins mark = .unknown ↔ name.has "field" = false) ∧
      ∀ s, Signature.ofHover? h = some s → s.kind = kind.readAs name := by
  intro h
  obtain ⟨-, hkn, -, -, hkq⟩ := keyword_chars hk
  have hnn : '\n' ∉ name := hn.notMem (by decide)
  have ht : h.title = Hover.titleOf key name := Hover.title_of_hover hkn hnn body
  have he : h.entity = some name := Hover.entity_of_hover hkn hkq hn body
  have hf : h.titleHas "field" = name.has "field" := by
    have hkf : ∀ e ∈ keywords, e.1.has "field" = false := by decide
    rw [Hover.titleHas, ht, Hover.has_titleOf (by decide) (by decide) (by decide) (by decide), hkf _ hk, Bool.false_or]
  refine ⟨classify_titleOf hk hn, readAs_eq_iff, hf, fun node builtins mark => ?_, fun s hs => ?_⟩
  · rw [Member.ofHover_eq_unknown_iff hn.1 he, hf]
  · rw [Signature.kind_of_ofHover? hs, ht, classify_titleOf hk hn]

theorem SignatureKind.kind_of_title_className :
    Text.IsIdentifier "className" ∧
      classify (Hover.titleOf "instance-method" "className") = method ∧
      ∀ s, Signature.ofHover? ⟨Hover.titleOf "instance-method" "className" ++ '\n' :: "no code"⟩ = some s →
        s.kind = method := by
  have hn : Text.IsIdentifier "className" := ⟨by decide, by decide⟩
  have hk : ("instance-method".toList, method) ∈ keywords := by decide
  obtain ⟨h1, h2, -, -, h3⟩ := kind_of_title hk hn "no code"
  have hr : method.readAs "className" = method := h2.2 (by decide)
  rw [hr] at h1 h3
  exact ⟨hn, h1, h3⟩

/-- Letters of a name can change the kind. -/
theorem SignatureKind.classify_subclass :
    ¬ ∀ (key name : Text) (kind : SignatureKind), (key, kind) ∈ keywords → name.IsIdentifier →
      classify (Hover.titleOf key name) = kind ∧ Text.has (Hover.titleOf key name) "field" = false := by
  intro h
  obtain ⟨hc, -⟩ := h "function" "subclass" freeFunction (by decide) ⟨by decide, by decide⟩
  exact absurd hc (by decide)

end Classwright
