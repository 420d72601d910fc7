import Classwright.Proofs.Signature.Closed
import Classwright.Proofs.Signature.Declaration
/-!
# Cuts of a declaration

What is left out of a declaration in front of the return type ends with the strongest qualifier, and what
is left out behind the function is specifiers. A cut falls inside an identifier exactly when the qualifier
or specifier at it is no whole word there (`insideIdentifier_cuts_iff`).
-/
namespace Classwright

open Text

namespace Declaration

variable {a b before front rest main tail needle name code x z : Text} {previous : Option Char} {c : Char}

/-! ## Inside an identifier -/

/-- An identifier goes on from the one text to the other. -/
def InsideIdentifier (a b : Text) : Prop :=
  a.getLast?.any isIdentifierChar = true ∧ b.head?.any isIdentifierChar = true

instance (a b : Text) : Decidable (InsideIdentifier a b) := inferInstanceAs (Decidable (_ ∧ _))

/-- The code points of white space. -/
def blankCodes : List Nat :=
  [0x9, 0xA, 0xB, 0xC, 0xD, 0x20, 0x85, 0xA0, 0x1680, 0x2000, 0x2001, 0x2002, 0x2003, 0x2004, 0x2005, 0x2006, 0x2007,
    0x2008, 0x2009, 0x200A, 0x2028, 0x2029, 0x202F, 0x205F, 0x3000]

theorem toNat_mem_blankCodes (h : isBlankChar c = true) : c.toNat ∈ blankCodes := by
  simp only [isBlankChar, Bool.or_eq_true, Bool.and_eq_true, decide_eq_true_eq, beq_iff_eq] at h
  simp only [blankCodes, List.mem_cons, List.not_mem_nil, or_false]
  omega

/-- White space is in no identifier. -/
theorem isIdentifierChar_of_blank (h : isBlankChar c = true) : isIdentifierChar c = false := by
  have hall : ∀ n ∈ blankCodes, isIdentifierChar (Char.ofNat n) = false := by decide +kernel
  have := hall _ (toNat_mem_blankCodes h)
  rwa [Char.ofNat_toNat] at this

theorem not_insideIdentifier_of_blank (h : isBlankChar c = true) (a b : Text) : ¬ InsideIdentifier a (c :: b) := by
  rintro ⟨-, hb⟩
  rw [List.head?_cons, Option.any_some, isIdentifierChar_of_blank h] at hb
  cases hb

theorem not_insideIdentifier_concat_of_blank (h : isBlankChar c = true) (a b : Text) : ¬ InsideIdentifier (a ++ [c]) b := by
  rintro ⟨ha, -⟩
  rw [List.getLast?_concat, Option.any_some, isIdentifierChar_of_blank h] at ha
  cases ha

theorem not_insideIdentifier_nil (a : Text) : ¬ InsideIdentifier a [] := by
  rintro ⟨-, h⟩
  cases h

theorem not_insideIdentifier_of_declarationLine (h : declarationLine code name = some (before, rest)) :
    ¬ InsideIdentifier before rest := by
  obtain ⟨line, -, hfound⟩ := List.exists_of_findSome?_eq_some h
  obtain ⟨-, -, hb⟩ := findFrom_cut hfound
  rintro ⟨hlast, -⟩
  cases hc : before.getLast? with
  | none => simp [hc] at hlast
  | some c =>
    rw [hc, Option.any_some] at hlast
    rw [hc, Option.some_or, isBoundary, hlast] at hb
    cases hb

/-! ## The start of the return type -/

/-- The text has a qualifier, here where it occurs first, and no stronger one. -/
structure IsStrongest (before x k y : Text) : Prop where
  cut : before.cut? k = some (x, y)
  strongest : ∃ stronger weaker, qualifiers = stronger ++ k :: weaker ∧ ∀ q ∈ stronger, ¬ q <:+: before

/-- What is left out in front of a return type: white space, or all up to the strongest qualifier and the white
space behind it. -/
inductive IsLeftOut (before front : Text) : Prop where
  | blank (none : ∀ k ∈ qualifiers, ¬ k <:+: before) (blank : front.isBlank = true)
  | qualifier {x k y gap : Text} (strongest : IsStrongest before x k y) (blank : gap.isBlank = true)
    (eq : front = x ++ k ++ gap)

theorem IsStrongest.eq_append {x k y : Text} (h : IsStrongest before x k y) : before = x ++ k ++ y := eq_of_cut? h.cut

theorem IsStrongest.afterQualifier_eq {x k y : Text} (h : IsStrongest before x k y) : afterQualifier before = y := by
  obtain ⟨stronger, weaker, hq, hn⟩ := h.strongest
  exact Declaration.afterQualifier_eq hq hn h.cut

theorem afterQualifier_cases (before : Text) :
    ((∀ k ∈ qualifiers, ¬ k <:+: before) ∧ afterQualifier before = before) ∨
      ∃ x k, IsStrongest before x k (afterQualifier before) := by
  by_cases h : ∀ k ∈ qualifiers, ¬ k <:+: before
  · exact Or.inl ⟨h, afterQualifier_eq_self h⟩
  · right
    cases hfind : qualifiers.findSome? fun key => (before.cut? key).map (·.2) with
    | none =>
      refine absurd (fun k hk => ?_) h
      exact cut?_eq_none_iff.1 (Option.map_eq_none_iff.1 (List.findSome?_eq_none_iff.1 hfind k hk))
    | some y =>
      obtain ⟨stronger, k, weaker, hq, hcut, hn⟩ := List.findSome?_eq_some_iff.1 hfind
      obtain ⟨⟨x, y'⟩, hxy, rfl⟩ := Option.map_eq_some_iff.1 hcut
      have hstrongest : IsStrongest before x k y' :=
        ⟨hxy, stronger, weaker, hq, fun q hq => cut?_eq_none_iff.1 (Option.map_eq_none_iff.1 (hn q hq))⟩
      exact ⟨x, k, by rwa [hstrongest.afterQualifier_eq]⟩

/-- **The start of a return type** is inside an identifier when the qualifier in front of it is. -/
theorem insideIdentifier_type_iff (hb : ¬ InsideIdentifier before rest) :
    ∃ front gap, before = front ++ ((afterQualifier before).trim ++ gap) ∧ gap.isBlank = true ∧ IsLeftOut before front ∧
      (InsideIdentifier front ((afterQualifier before).trim ++ gap ++ rest) ↔
        ∃ x k y, IsStrongest before x k y ∧ InsideIdentifier (x ++ k) y) := by
  obtain ⟨lead, hlead, hblank⟩ := exists_blank_append_trimStart (afterQualifier before)
  obtain ⟨gap, hgap, hgapBlank⟩ := exists_append_blank_trimEnd (afterQualifier before).trimStart
  -- what is in front of the text behind the qualifier
  obtain ⟨out, hout, hleft, hinside⟩ : ∃ out, before = out ++ afterQualifier before ∧
      (∀ gap : Text, gap.isBlank = true → IsLeftOut before (out ++ gap)) ∧
      ((∃ x k y, IsStrongest before x k y ∧ InsideIdentifier (x ++ k) y) ↔ InsideIdentifier out (afterQualifier before)) := by
    rcases afterQualifier_cases before with ⟨hnone, hsame⟩ | ⟨x, k, hstrongest⟩
    · refine ⟨[], hsame.symm, fun gap hg => .blank hnone hg, ?_⟩
      refine iff_of_false ?_ fun h => absurd h.1 (by decide)
      rintro ⟨x, k, y, h, -⟩
      obtain ⟨stronger, weaker, hq, -⟩ := h.strongest
      exact hnone k (by simp [hq]) ⟨x, y, h.eq_append.symm⟩
    · refine ⟨x ++ k, hstrongest.eq_append, fun gap hg => .qualifier hstrongest hg rfl, ?_⟩
      constructor
      · rintro ⟨x', k', y, h, hi⟩
        have hback := h.afterQualifier_eq
        have heq : x' ++ k' ++ y = x ++ k ++ y := by
          rw [← h.eq_append]
          conv_lhs => rw [hstrongest.eq_append, hback]
        rwa [List.append_cancel_right heq, ← hback] at hi
      · exact fun hi => ⟨x, k, _, hstrongest, hi⟩
  refine ⟨out ++ lead, gap, ?_, hgapBlank, hleft lead hblank, ?_⟩
  · rw [trim, ← hgap, List.append_assoc, ← hlead]
    exact hout
  · rw [hinside, trim, ← hgap]
    cases lead using List.reverseRecOn with
    | nil =>
      rw [List.append_nil, List.nil_append] at *
      rw [← hlead]
      cases hy : afterQualifier before with
      | nil =>
        rw [hy, List.append_nil] at hout
        rw [← hout]
        exact iff_of_false hb (not_insideIdentifier_nil before)
      | cons c y => rfl
    | append_singleton lead c =>
      have hc : isBlankChar c = true := List.all_eq_true.1 hblank c (by simp)
      rw [← List.append_assoc]
      refine iff_of_false (not_insideIdentifier_concat_of_blank hc _ _) ?_
      cases lead with
      | nil =>
        rw [hlead]
        exact not_insideIdentifier_of_blank hc _ _
      | cons d lead =>
        rw [hlead]
        exact not_insideIdentifier_of_blank (List.all_eq_true.1 hblank d (by simp)) _ _

/-! ## The end of the function -/

/-- Specifiers that only a declaration has, and white space. -/
def IsSpecifiers (tail : Text) : Prop :=
  ∃ pieces : List Text, tail = pieces.flatten ∧ ∀ t ∈ pieces, t ∈ declarationOnly ∨ t.isBlank = true

/-- The specifiers with letters in them. -/
def specifierWords : List Text := ["override", "final"]

theorem isSpecifiers_nil : IsSpecifiers [] := ⟨[], rfl, by simp⟩

theorem IsSpecifiers.append {gap : Text} (ha : IsSpecifiers a) (hg : gap.isBlank = true) {k : Text} (hk : k ∈ declarationOnly) :
    IsSpecifiers (a ++ (gap ++ k)) := by
  obtain ⟨pieces, rfl, hp⟩ := ha
  refine ⟨pieces ++ [gap, k], by simp, fun t ht => ?_⟩
  simp only [List.mem_append, List.mem_cons, List.not_mem_nil, or_false] at ht
  rcases ht with ht | rfl | rfl
  · exact hp t ht
  · exact Or.inr hg
  · exact Or.inl hk

theorem IsSpecifiers.append_blank {gap : Text} (ha : IsSpecifiers a) (hg : gap.isBlank = true) : IsSpecifiers (a ++ gap) := by
  obtain ⟨pieces, rfl, hp⟩ := ha
  refine ⟨pieces ++ [gap], by simp, fun t ht => ?_⟩
  rcases List.mem_append.1 ht with ht | ht
  · exact hp t ht
  · obtain rfl := List.mem_singleton.1 ht
    exact Or.inr hg

/-- Each round of the loop takes off a specifier and the white space before it. -/
theorem exists_specifiers_dropSuffixes (fuel : Nat) (main : Text) :
    ∃ tail, main = dropSuffixes fuel main ++ tail ∧ IsSpecifiers tail := by
  induction fuel generalizing main with
  | zero => exact ⟨[], (List.append_nil _).symm, isSpecifiers_nil⟩
  | succ fuel ih =>
    rw [dropSuffixes]
    cases hd : dropSuffix? main with
    | none => exact ⟨[], (List.append_nil _).symm, isSpecifiers_nil⟩
    | some shorter =>
      obtain ⟨rest, k, hk, rfl, rfl⟩ := dropSuffix?_eq_some hd
      obtain ⟨gap, hrest, hgap⟩ := exists_append_blank_trimEnd rest
      obtain ⟨tail, htail, hspec⟩ := ih rest.trimEnd
      refine ⟨tail ++ (gap ++ k), ?_, hspec.append hgap hk⟩
      rw [← List.append_assoc, ← htail, ← List.append_assoc, ← hrest]

theorem exists_specifiers_withoutSuffixes (main : Text) : ∃ tail, main = withoutSuffixes main ++ tail ∧ IsSpecifiers tail := by
  obtain ⟨gap, hmain, hgap⟩ := exists_append_blank_trimEnd main
  obtain ⟨tail, htail, hspec⟩ := exists_specifiers_dropSuffixes main.length main.trimEnd
  refine ⟨tail ++ gap, ?_, hspec.append_blank hgap⟩
  rw [withoutSuffixes, ← List.append_assoc, ← htail, ← hmain]

/-- An identifier goes on into specifiers only where the first of them is a word. -/
theorem exists_word_of_isSpecifiers (ht : IsSpecifiers tail) (hc : tail.head?.any isIdentifierChar = true) :
    ∃ k ∈ specifierWords, k <+: tail := by
  obtain ⟨pieces, rfl, hp⟩ := ht
  induction pieces with
  | nil => cases hc
  | cons t pieces ih =>
    cases t with
    | nil => exact ih (fun u hu => hp u (List.mem_cons_of_mem _ hu)) hc
    | cons c t =>
      rw [List.flatten_cons, List.cons_append, List.head?_cons, Option.any_some] at hc
      have hword : ∀ k ∈ declarationOnly, k ∈ specifierWords ∨ k.head?.any isIdentifierChar = false := by decide
      rcases hp _ (List.mem_cons_self ..) with hmem | hblank
      · refine ⟨c :: t, (hword _ hmem).resolve_right ?_, List.prefix_append ..⟩
        rw [List.head?_cons, Option.any_some, hc]
        decide
      · have := isIdentifierChar_of_blank (List.all_eq_true.1 hblank c (List.mem_cons_self ..))
        rw [this] at hc
        cases hc

/-- **The end of a function** is inside an identifier when the specifier word behind it is. -/
theorem insideIdentifier_main_iff (ht : IsSpecifiers tail) :
    InsideIdentifier main tail ↔ ∃ k ∈ specifierWords, k <+: tail ∧ InsideIdentifier main k := by
  have hhead {k : Text} (hk : k ∈ specifierWords) (hp : k <+: tail) : k.head? = tail.head? := by
    have hne : ∀ k ∈ specifierWords, k ≠ [] := by decide
    obtain ⟨c, k, rfl⟩ := List.exists_cons_of_ne_nil (hne k hk)
    obtain ⟨r, rfl⟩ := hp
    rfl
  constructor
  · rintro ⟨hm, hc⟩
    obtain ⟨k, hk, hp⟩ := exists_word_of_isSpecifiers ht hc
    exact ⟨k, hk, hp, hm, by rwa [hhead hk hp]⟩
  · rintro ⟨k, hk, hp, hm, hc⟩
    exact ⟨hm, by rwa [← hhead hk hp]⟩

end Declaration

namespace Signature

open Declaration

variable {h : Hover} {s : Signature}

/-- The kinds of functions with a return type of their own. -/
def HasReturnType (kind : SignatureKind) : Prop := kind = .staticMethod ∨ kind = .method ∨ kind = .freeFunction

/-- The line of the code that declares the quoted name, cut before the name. -/
def declarationLine? (h : Hover) : Option (Text × Text) := h.entity.bind fun name => h.code.bind (declarationLine · name)

/-- The return type and the function of a signature are those of the quoted name. -/
theorem exists_functionMain_of_ofHover? (hs : ofHover? h = some s) (hk : HasReturnType s.kind) :
    ∃ name code, h.entity = some name ∧ h.code = some code ∧
      Declaration.returnType code name = some s.returnType ∧ functionMain code name = some s.main := by
  rw [kind_of_ofHover? hs] at hk
  unfold ofHover? at hs
  cases hname : h.entity with
  | none => rcases hk with hk | hk | hk <;> simp [hk, hname] at hs
  | some name =>
    cases hcode : h.code with
    | none => rcases hk with hk | hk | hk <;> simp [hk, hname, hcode] at hs
    | some code =>
      refine ⟨name, code, rfl, rfl, ?_⟩
      rcases hk with hk | hk | hk
      all_goals
        simp only [hk, hname, hcode, Option.bind_eq_bind, reduceCtorEq, if_false, Option.bind_some] at hs
        obtain ⟨type, htype, hs⟩ := Option.bind_eq_some_iff.1 hs
        obtain ⟨main, hmain, hs⟩ := Option.bind_eq_some_iff.1 hs
        obtain rfl := Option.some.inj hs
        exact ⟨htype, hmain⟩

/-- **Where a declaration is cut.** The line that declares the quoted name is what is left out, the return type,
white space, the function and specifiers. Of a template no return type is read. The return type starts inside an
identifier exactly when the identifier goes on behind the strongest qualifier where that occurs first, and the
function ends inside one exactly when the identifier goes on into `override` or `final`. -/
theorem insideIdentifier_cuts_iff (hs : ofHover? h = some s) (hk : HasReturnType s.kind) :
    ∃ code before tail, h.code = some code ∧ declarationLine? h = some (before, s.main ++ tail) ∧ IsSpecifiers tail ∧
      (InsideIdentifier s.main tail ↔ ∃ k ∈ specifierWords, k <+: tail ∧ InsideIdentifier s.main k) ∧
      (templateMarks.any code.has = true ∧ s.returnType = [] ∨
        ∃ front gap, before = front ++ (s.returnType ++ gap) ∧ gap.isBlank = true ∧ IsLeftOut before front ∧
          (InsideIdentifier front (s.returnType ++ gap ++ (s.main ++ tail)) ↔
            ∃ x k y, IsStrongest before x k y ∧ InsideIdentifier (x ++ k) y)) := by
  obtain ⟨name, code, hname, hcode, htype, hmain⟩ := exists_functionMain_of_ofHover? hs hk
  unfold functionMain at hmain
  split at hmain
  · cases hmain
  · obtain ⟨⟨before, rest⟩, hline, hmain⟩ := Option.bind_eq_some_iff.1 hmain
    have hmain : withoutSuffixes rest = s.main := Option.some.inj hmain
    obtain ⟨tail, hrest, hspec⟩ := exists_specifiers_withoutSuffixes rest
    rw [hmain] at hrest
    have hfound : declarationLine? h = some (before, s.main ++ tail) := by
      rw [declarationLine?, hname, Option.bind_some, hcode, Option.bind_some, hline, ← hrest]
    refine ⟨code, before, tail, hcode, hfound, hspec, insideIdentifier_main_iff hspec, ?_⟩
    unfold Declaration.returnType at htype
    split at htype
    · next htemplate => exact Or.inl ⟨htemplate, (Option.some.inj htype).symm⟩
    · right
      rw [hline] at htype
      have htype : (afterQualifier before).trim = s.returnType := Option.some.inj htype
      rw [← htype, ← hrest]
      exact insideIdentifier_type_iff (not_insideIdentifier_of_declarationLine hline)

/-- A member that returns a smart pointer. -/
def cloned : Hover :=
  ⟨"### instance-method \x60clone\x60\n\n\x60\x60\x60cpp\n// In Shape\npublic: virtual_ptr<Shape> clone() const\n\x60\x60\x60"⟩

theorem ofHover?_cloned :
    ofHover? cloned = some ⟨.method, "_ptr<Shape>", "clone", "Shape", [], "clone() const"⟩ := by decide +kernel

theorem declarationLine?_cloned :
    declarationLine? cloned = some ("public: virtual".toList ++ "_ptr<Shape> ", "clone() const".toList) := by decide +kernel

theorem insideIdentifier_cuts_iff_cloned : ∃ s, ofHover? cloned = some s ∧ HasReturnType s.kind ∧
    ∃ before tail, declarationLine? cloned = some (before, s.main ++ tail) ∧ ¬ InsideIdentifier s.main tail ∧
      ∃ front gap, before = front ++ (s.returnType ++ gap) ∧
        InsideIdentifier front (s.returnType ++ gap ++ (s.main ++ tail)) := by
  have hk : HasReturnType .method := Or.inr (Or.inl rfl)
  obtain ⟨code, before, tail, hcode, hline, -, hmain, htype⟩ := insideIdentifier_cuts_iff ofHover?_cloned hk
  obtain ⟨rfl, hrest⟩ := Prod.mk.inj (Option.some.inj (hline.symm.trans declarationLine?_cloned))
  refine ⟨_, ofHover?_cloned, hk, _, tail, hline, fun hi => ?_, ?_⟩
  · -- neither word is in the function
    obtain ⟨k, hword, ⟨r, rfl⟩, -⟩ := hmain.1 hi
    have hnot : ∀ k ∈ specifierWords, ¬ k <:+: "clone() const".toList := by decide
    exact hnot k hword ⟨_, r, (List.append_assoc ..).trans hrest⟩
  · rcases htype with ⟨htemplate, -⟩ | ⟨front, gap, hbefore, -, -, hinside⟩
    · have hplain : cloned.code.map (templateMarks.any ·.has) = some false := by decide
      rw [hcode, Option.map_some, htemplate] at hplain
      cases hplain
    · refine ⟨front, gap, hbefore, hinside.2 ⟨"public: ", "virtual", "_ptr<Shape> ", ⟨by decide, ?_⟩, by decide⟩⟩
      exact ⟨["static"], ["public:", "private:", "protected:"], rfl, by decide⟩

/-- A function whose return type is written behind it. -/
def matched : Hover :=
  ⟨"### function \x60match\x60\n\n\x60\x60\x60cpp\nauto match() -> semifinal\n\x60\x60\x60"⟩

/-- The return type `virtual_ptr<Shape>` is cut behind `virtual`, and `semifinal` in front of `final`. -/
theorem insideIdentifier_cloned_matched :
    ofHover? cloned = some ⟨.method, "_ptr<Shape>", "clone", "Shape", [], "clone() const"⟩ ∧
    declarationLine? cloned = some ("public: virtual".toList ++ "_ptr<Shape> ", "clone() const".toList) ∧
    InsideIdentifier "public: virtual" "_ptr<Shape> " ∧
    ofHover? matched = some ⟨.freeFunction, "auto", "match", [], [], "match() -> semi"⟩ ∧
    declarationLine? matched = some ("auto ".toList, "match() -> semi".toList ++ "final") ∧
    InsideIdentifier "match() -> semi" "final" :=
  ⟨ofHover?_cloned, declarationLine?_cloned, by decide, by decide +kernel, by decide +kernel, by decide⟩

end Signature
end Classwright
