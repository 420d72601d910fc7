import Mathlib.Tactic.Common
import Classwright.Proofs.Hover
import Classwright.Proofs.Signature.Identifier
import Classwright.Proofs.Signature.Offsets
import Classwright.Proofs.Signature.Title
import Classwright.Signature.Basic
/-!
# A signature is read or there is none

A hover gives a signature exactly when its title names a kind and quotes a name, its text holds code,
and the code declares the name, or the class of a constructor (`ofHover?_closed`). A destructor needs
no declaration. What is read begins with the declared name and has no specifier at its end, and it is
read without a slice that leaves the text or cuts a character.
-/
namespace Classwright

open Text

variable {code name line main shorter before t a b : Text} {c : Char} {h : Hover} {s : Signature}

/-! ## Lines that declare a name -/

namespace Declaration

/-- A line of the code that is no comment has the name in front of a parenthesis, and the name does not
continue an identifier there. -/
def Declares (code name : Text) : Prop :=
  ∃ line ∈ code.lines, ¬ "//".toList <+: line.trim ∧
    ∃ before after, line = before ++ (name ++ "(" ++ after) ∧ ∀ c, before.getLast? = some c → isIdentifierChar c = false

/-- White space at the end does not make a comment. -/
theorem isComment_iff : isComment line = true ↔ "//".toList <+: line.trim := by
  have htight : TightEnd "//".toList := ⟨['/'], '/', rfl, by decide⟩
  rw [isComment, startsWith_iff]
  constructor
  · rintro ⟨rest, hrest⟩
    rw [trim, ← hrest]
    exact htight.isPrefix_trimEnd rest
  · exact fun hp => hp.trans (trimEnd_isPrefix _)

theorem isBoundary_or_none : isBoundary (before.getLast?.or none) = true ↔
    ∀ c, before.getLast? = some c → isIdentifierChar c = false := by
  cases before.getLast? with
  | none => simp [isBoundary]
  | some c => simp [isBoundary]

theorem isSome_declarationLine_iff (hp : '(' ∉ name) : (declarationLine code name).isSome = true ↔ Declares code name := by
  rw [declarationLine, List.findSome?_isSome_iff]
  constructor
  · rintro ⟨line, hline, hfound⟩
    obtain ⟨hmem, hcomment⟩ := List.mem_filter.1 hline
    obtain ⟨x, z, rfl, ⟨r, rfl⟩, hb⟩ := (findIdentifier_isSome_iff hp).1 hfound
    rw [Bool.not_eq_true', ← Bool.not_eq_true, isComment_iff] at hcomment
    exact ⟨_, hmem, hcomment, x, r, rfl, isBoundary_or_none.1 hb⟩
  · rintro ⟨line, hmem, hcomment, x, r, rfl, hb⟩
    refine ⟨_, List.mem_filter.2 ⟨hmem, ?_⟩, (findIdentifier_isSome_iff hp).2 ⟨x, _, rfl, ⟨r, rfl⟩, isBoundary_or_none.2 hb⟩⟩
    rw [Bool.not_eq_true', ← Bool.not_eq_true, isComment_iff]
    exact hcomment

/-- What is found begins with the needle. -/
theorem isPrefix_of_declarationLine (hd : declarationLine code name = some (a, b)) : (name ++ "(" : Text) <+: b := by
  obtain ⟨line, -, hfound⟩ := List.exists_of_findSome?_eq_some hd
  exact (findFrom_cut hfound).2.1

/-! ## Specifiers are taken off until there are none -/

theorem dropSuffix?_eq_some (hd : dropSuffix? main = some shorter) :
    ∃ rest, ∃ s ∈ declarationOnly, main = rest ++ s ∧ shorter = rest.trimEnd := by
  obtain ⟨rest, hrest, rfl⟩ := Option.map_eq_some_iff.1 hd
  obtain ⟨s, hs, hstrip⟩ := List.exists_of_findSome?_eq_some hrest
  exact ⟨rest, s, hs, stripEnd?_eq_some_iff.1 hstrip, rfl⟩

/-- **The loop over the specifiers** keeps the start of the function and leaves no specifier and no white
space at its end. Each round takes some characters, so there are enough rounds. -/
theorem dropSuffixes_spec {fuel : Nat} (hfuel : main.length ≤ fuel) (ht : main.trimEnd = main) (hp : t ++ ['('] <+: main) :
    t ++ ['('] <+: dropSuffixes fuel main ∧ (dropSuffixes fuel main).trimEnd = dropSuffixes fuel main ∧
      ∀ s ∈ declarationOnly, ¬ s <:+ dropSuffixes fuel main := by
  induction fuel generalizing main with
  | zero =>
    have hlength := hp.length_le
    simp only [List.length_append, List.length_singleton] at hlength
    omega
  | succ fuel ih =>
    rw [dropSuffixes]
    cases hd : dropSuffix? main with
    | none =>
      refine ⟨hp, ht, fun s hs => ?_⟩
      rw [dropSuffix?, Option.map_eq_none_iff, List.findSome?_eq_none_iff] at hd
      exact stripEnd?_eq_none_iff.1 (hd s hs)
    | some shorter =>
      obtain ⟨rest, s, hs, rfl, rfl⟩ := dropSuffix?_eq_some hd
      have hspec : ∀ s ∈ declarationOnly, 0 < s.length ∧ '(' ∉ s := by decide
      obtain ⟨hpos, hparen⟩ := hspec s hs
      obtain ⟨r, rfl⟩ := isPrefix_of_append_notMem hparen hp
      have htight : TightEnd (t ++ ['(']) := ⟨t, '(', rfl, by decide⟩
      have hlength := (trimEnd_isPrefix (t ++ ['('] ++ r)).length_le
      refine ih ?_ (trimEnd_trimEnd _) (htight.isPrefix_trimEnd r)
      rw [List.length_append] at hfuel
      omega

/-- What is left of a function with its specifiers taken off. -/
structure IsMain (name main : Text) : Prop where
  start : (name ++ "(" : Text) <+: main
  tight : main.TightEnd
  noSpecifier : ∀ s ∈ declarationOnly, ¬ s <:+ main

theorem isMain_of_functionMain (hm : functionMain code name = some main) : IsMain name main := by
  unfold functionMain at hm
  split at hm
  · cases hm
  · obtain ⟨⟨before, rest⟩, hline, hmain⟩ := Option.bind_eq_some_iff.1 hm
    obtain rfl := Option.some.inj hmain
    obtain ⟨r, rfl⟩ := isPrefix_of_declarationLine hline
    have htight : TightEnd (name ++ "(" : Text) := ⟨name, '(', rfl, by decide⟩
    obtain ⟨h1, h2, h3⟩ := dropSuffixes_spec (trimEnd_isPrefix _).length_le (trimEnd_trimEnd _) (htight.isPrefix_trimEnd r)
    have hne : withoutSuffixes (name ++ "(" ++ r) ≠ [] := by
      intro hnil
      have hstart : name ++ ['('] <+: withoutSuffixes (name ++ "(" ++ r) := h1
      rw [hnil, List.prefix_nil] at hstart
      simp at hstart
    exact ⟨h1, tightEnd_of_trimEnd h2 hne, h3⟩

theorem isSome_functionMain_iff (hne : name ≠ []) : (functionMain code name).isSome = true ↔
    (declarationLine code name).isSome = true := by
  have hname : ¬ name.isEmpty = true := by simpa using hne
  rw [functionMain, if_neg hname]
  cases declarationLine code name <;> simp

theorem isSome_returnType (hd : (declarationLine code name).isSome = true) : (returnType code name).isSome = true := by
  unfold returnType
  split
  · rfl
  · obtain ⟨cut, hcut⟩ := Option.isSome_iff_exists.1 hd
    rw [hcut]
    rfl

end Declaration

/-! ## When there is a signature -/

theorem Text.ne_nil_of_nonEmpty? (h : t.nonEmpty? = some a) : a ≠ [] := by
  unfold nonEmpty? at h
  split at h
  · cases h
  · next hne =>
    obtain rfl := Option.some.inj h
    simpa using hne

theorem Hover.ne_nil_of_entity (he : h.entity = some name) : name ≠ [] := by
  unfold entity quotedName at he
  obtain ⟨cut, -, he⟩ := Option.bind_eq_some_iff.1 he
  dsimp only at he
  split at he <;> exact Text.ne_nil_of_nonEmpty? he

theorem Hover.ne_nil_of_className (hc : h.className = some name) : name ≠ [] := by
  unfold className at hc
  obtain ⟨line, -, hc⟩ := Option.bind_eq_some_iff.1 hc
  split at hc
  · cases hc
  · obtain ⟨scope, -, hc⟩ := Option.bind_eq_some_iff.1 hc
    exact Text.ne_nil_of_nonEmpty? hc

namespace Signature

open Declaration

/-- The function in the code: the declaration of the quoted name, or for a constructor else that of the
class. A destructor has none. -/
def main? (kind : SignatureKind) (className : Option Text) (code name : Text) : Option Text :=
  match kind with
  | .constructor => (functionMain code name).or (functionMain code (className.getD []))
  | .destructor => some []
  | .staticMethod | .method | .freeFunction => functionMain code name
  | .unknown => none

/-- A return type is known where there is a function. -/
theorem returnType_of_functionMain (hm : functionMain code name = some main) : ∃ type, Declaration.returnType code name = some type := by
  have hline : (declarationLine code name).isSome = true := by
    unfold functionMain at hm
    split at hm
    · cases hm
    · obtain ⟨cut, hcut, -⟩ := Option.bind_eq_some_iff.1 hm
      rw [hcut]
      rfl
  exact Option.isSome_iff_exists.1 (isSome_returnType hline)

theorem map_main_ofHover? (h : Hover) : (ofHover? h).map Signature.main =
    h.entity.bind fun name => h.code.bind fun code => main? (SignatureKind.classify h.title) h.className code name := by
  unfold ofHover?
  generalize SignatureKind.classify h.title = kind
  by_cases hkind : kind = .unknown
  · subst hkind
    cases h.entity with
    | none => rfl
    | some name => cases h.code <;> rfl
  rw [if_neg hkind]
  cases h.entity with
  | none => rfl
  | some name =>
    cases h.code with
    | none => rfl
    | some code =>
      simp only [Option.bind_eq_bind, Option.bind_some, main?]
      cases kind with
      | constructor => cases (functionMain code name).or (functionMain code (h.className.getD [])) <;> rfl
      | staticMethod | method | freeFunction =>
        cases hm : functionMain code name with
        | none => cases Declaration.returnType code name <;> rfl
        | some main =>
          obtain ⟨type, htype⟩ := returnType_of_functionMain hm
          rw [htype]
          rfl
      | destructor | unknown => rfl

/-- What the code has to declare for a kind of function: the quoted name, for a constructor or else its
class, and nothing for a destructor. -/
def IsDeclared (kind : SignatureKind) (className : Option Text) (code name : Text) : Prop :=
  kind = .destructor ∨ Declares code name ∨ kind = .constructor ∧ ∃ c, className = some c ∧ c ≠ [] ∧ Declares code c

theorem isSome_main?_iff {kind : SignatureKind} {className : Option Text} (hne : name ≠ []) (hp : '(' ∉ name)
    (hclass : ∀ c, className = some c → c ≠ [] ∧ '(' ∉ c) :
    (main? kind className code name).isSome = true ↔ kind ≠ .unknown ∧ IsDeclared kind className code name := by
  have hname : (functionMain code name).isSome = true ↔ Declares code name := by
    rw [isSome_functionMain_iff hne, isSome_declarationLine_iff hp]
  have hscope : (functionMain code (className.getD [])).isSome = true ↔ ∃ c, className = some c ∧ c ≠ [] ∧ Declares code c := by
    cases hc : className with
    | none => simp [functionMain]
    | some c =>
      obtain ⟨hcne, hcp⟩ := hclass c hc
      simp [isSome_functionMain_iff hcne, isSome_declarationLine_iff hcp, hcne]
  unfold main? IsDeclared
  cases kind with
  | constructor => simp [Option.isSome_or, hname, hscope]
  | staticMethod | method | freeFunction => simp [hname]
  | destructor | unknown => simp

/-! ## What is written for it -/

theorem definition_ne_nil (hk : s.kind ≠ .unknown) : s.definition ≠ [] := by
  rw [definition, if_neg hk]
  exact fun hnil => absurd (List.append_eq_nil_iff.1 hnil).2 (by decide)

theorem definitionOfHover_eq_nil_iff : definitionOfHover h = [] ↔ ofHover? h = none := by
  unfold definitionOfHover
  cases hs : ofHover? h with
  | none => simp
  | some s =>
    have hk : s.kind ≠ .unknown := by
      rw [kind_of_ofHover? hs]
      intro hk
      have hmain := map_main_ofHover? h
      rw [hs, hk] at hmain
      obtain ⟨name, -, hmain⟩ := Option.bind_eq_some_iff.1 hmain.symm
      obtain ⟨code, -, hmain⟩ := Option.bind_eq_some_iff.1 hmain
      cases hmain
    simpa using definition_ne_nil hk

/-- The function of a signature is what is left of a declaration in the code. -/
theorem isMain_of_ofHover? (hs : ofHover? h = some s) (hd : s.kind ≠ .destructor) :
    ∃ name code, h.entity = some name ∧ h.code = some code ∧ (IsMain name s.main ∨
      s.kind = .constructor ∧ functionMain code name = none ∧ ∃ c, h.className = some c ∧ IsMain c s.main) := by
  have hmain := map_main_ofHover? h
  rw [hs, Option.map_some, ← kind_of_ofHover? hs] at hmain
  obtain ⟨name, hname, hmain⟩ := Option.bind_eq_some_iff.1 hmain.symm
  obtain ⟨code, hcode, hmain⟩ := Option.bind_eq_some_iff.1 hmain
  refine ⟨name, code, hname, hcode, ?_⟩
  unfold main? at hmain
  split at hmain
  · next hk =>
    rcases Option.or_eq_some_iff.1 hmain with hm | ⟨hnone, hm⟩
    · exact Or.inl (isMain_of_functionMain hm)
    · cases hc : h.className with
      | none =>
        rw [hc] at hm
        cases hm
      | some c =>
        rw [hc] at hm
        exact Or.inr ⟨hk, hnone, c, rfl, isMain_of_functionMain hm⟩
  · next hk => exact absurd hk hd
  · exact Or.inl (isMain_of_functionMain hmain)
  · exact Or.inl (isMain_of_functionMain hmain)
  · exact Or.inl (isMain_of_functionMain hmain)
  · cases hmain

/-- **A signature is read or there is none.** Reading never takes a slice that leaves the text or cuts a
character. For names without a parenthesis there is a signature exactly when the title names a kind and
quotes a name, the text holds code, and the code declares what the kind asks for. Of all functions but a
destructor, the signature has a declaration with nothing at its end that only a declaration has. The
definition is empty only where there is no signature. -/
theorem ofHover?_closed (h : Hover) :
    (ofHoverByOffsets h).run = .ok (ofHover? h) ∧
    ((∀ n, h.entity = some n → '(' ∉ n) → (∀ c, h.className = some c → '(' ∉ c) →
      ((ofHover? h).isSome = true ↔ SignatureKind.classify h.title ≠ .unknown ∧
        ∃ name code, h.entity = some name ∧ name ≠ [] ∧ Hover.HoldsCode h.text code ∧
          IsDeclared (SignatureKind.classify h.title) h.className code name)) ∧
    (∀ s, ofHover? h = some s → s.kind ≠ .destructor →
      ∃ name code, h.entity = some name ∧ Hover.HoldsCode h.text code ∧ (IsMain name s.main ∨
        s.kind = .constructor ∧ ('(' ∉ name → ¬ Declares code name) ∧ ∃ c, h.className = some c ∧ IsMain c s.main)) ∧
    (definitionOfHover h = [] ↔ ofHover? h = none) := by
  refine ⟨by rw [ofHoverByOffsets_eq]; rfl, fun hname hclass => ?_, fun s hs hd => ?_, definitionOfHover_eq_nil_iff⟩
  · rw [← Option.isSome_map (f := Signature.main), map_main_ofHover?, Option.isSome_iff_exists]
    have hdeclared (name code : Text) (hentity : h.entity = some name) :
        (main? (SignatureKind.classify h.title) h.className code name).isSome = true ↔
          SignatureKind.classify h.title ≠ .unknown ∧ IsDeclared (SignatureKind.classify h.title) h.className code name :=
      isSome_main?_iff (Hover.ne_nil_of_entity hentity) (hname name hentity)
        fun c hc => ⟨Hover.ne_nil_of_className hc, hclass c hc⟩
    constructor
    · rintro ⟨main, hmain⟩
      obtain ⟨name, hentity, hmain⟩ := Option.bind_eq_some_iff.1 hmain
      obtain ⟨code, hcode, hmain⟩ := Option.bind_eq_some_iff.1 hmain
      obtain ⟨hk, hd⟩ := (hdeclared name code hentity).1 (Option.isSome_iff_exists.2 ⟨main, hmain⟩)
      exact ⟨hk, name, code, hentity, Hover.ne_nil_of_entity hentity, Hover.fencedCode_eq_some_iff.1 hcode, hd⟩
    · rintro ⟨hk, name, code, hentity, -, hcode, hd⟩
      obtain ⟨main, hmain⟩ := Option.isSome_iff_exists.1 ((hdeclared name code hentity).2 ⟨hk, hd⟩)
      exact ⟨main, Option.bind_eq_some_iff.2 ⟨name, hentity, Option.bind_eq_some_iff.2
        ⟨code, Hover.fencedCode_eq_some_iff.2 hcode, hmain⟩⟩⟩
  · obtain ⟨name, code, hname, hcode, hmain⟩ := isMain_of_ofHover? hs hd
    refine ⟨name, code, hname, Hover.fencedCode_eq_some_iff.1 hcode, hmain.imp id ?_⟩
    rintro ⟨hk, hnone, hc⟩
    refine ⟨hk, fun hp hdeclares => ?_, hc⟩
    rw [← isSome_declarationLine_iff hp, ← isSome_functionMain_iff (Hover.ne_nil_of_entity hname), hnone] at hdeclares
    cases hdeclares

/-- A constructor of a template. The code declares it by the name of the class, not by the quoted one. -/
def boxed : Hover := ⟨"### constructor \x60Box<T>\x60\n\n\x60\x60\x60cpp\n// In Box\nexplicit Box(T value)\n\x60\x60\x60"⟩

theorem ofHover?_closed_boxed :
    (∀ n, boxed.entity = some n → '(' ∉ n) ∧ (∀ c, boxed.className = some c → '(' ∉ c) ∧
    (∃ name code, Hover.HoldsCode boxed.text code ∧ IsDeclared .constructor boxed.className code name) ∧
    ∃ s, ofHover? boxed = some s ∧ s.kind ≠ .destructor ∧ ∃ name, IsMain name s.main := by
  have hname : ∀ n, boxed.entity = some n → '(' ∉ n := by
    intro n hn
    obtain rfl : "Box<T>".toList = n := Option.some.inj ((by decide : some "Box<T>".toList = boxed.entity).trans hn)
    decide
  have hclass : ∀ c, boxed.className = some c → '(' ∉ c := by
    intro c hc
    obtain rfl : "Box".toList = c := Option.some.inj ((by decide : some "Box".toList = boxed.className).trans hc)
    decide
  obtain ⟨-, hread, hmain, -⟩ := ofHover?_closed boxed
  have hsome : (ofHover? boxed).isSome = true := by decide
  obtain ⟨-, name, code, -, -, hcode, hdeclared⟩ := (hread hname hclass).1 hsome
  obtain ⟨s, hs⟩ := Option.isSome_iff_exists.1 hsome
  have hkind : s.kind ≠ .destructor := by
    rw [kind_of_ofHover? hs]
    decide
  refine ⟨hname, hclass, ⟨name, code, hcode, hdeclared⟩, s, hs, hkind, ?_⟩
  obtain ⟨name, -, -, -, hname | ⟨-, -, c, -, hc⟩⟩ := hmain s hs hkind
  · exact ⟨name, hname⟩
  · exact ⟨c, hc⟩

end Signature
end Classwright
