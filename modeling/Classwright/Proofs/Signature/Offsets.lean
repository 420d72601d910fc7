import Mathlib.Tactic.Common
import Classwright.Proofs.Signature.Identifier
import Classwright.Proofs.Text.Sliced
import Classwright.Signature.Basic
/-!
# Reading a signature by byte offsets

The signature of a hover is read once more, now with offsets and slices of which each has to be a
stretch of whole characters. Such reading never stops, and gives the same signature
(`ofHoverByOffsets_eq`): no search leaves the text and no slice cuts a character, whatever the hover
is.
-/
namespace Classwright

open Text

/-! ## The hover -/

namespace Hover

variable {t code line : Text}

/-- The inside of the last fenced block. -/
def codeByOffsets (t : Text) : Sliced Text := do
  let closing ← .of (t.findLast? fence)
  let front ← t.sliced 0 closing
  let opening ← .of (front.findLast? fence)
  let inner ← t.sliced (opening + fence.bytes) closing
  let (_, code) ← .of (inner.cut? ['\n'])
  return code.dropEndWhile fun c => c == '\n' || c == '\r'

def nameByOffsets (line : Text) : Sliced Text := do
  let start ← .of (line.find? quote)
  let rest ← line.sliced (start + quote.bytes) line.bytes
  let name ← match rest.find? quote with
    | some stop => rest.sliced 0 stop
    | none => pure rest.trimEnd
  .of name.nonEmpty?

/-- The class that the first comment on a scope names. -/
def classByOffsets (code : Text) : Sliced Text := do
  let line ← .of ((code.lines.map Text.trim).find? (·.startsWith scopeMark))
  if line.startsWith namespaceMark then .of none
  else
    let scope ← line.sliced scopeMark.bytes line.bytes
    .of scope.trim.nonEmpty?

theorem codeByOffsets_eq (t : Text) : codeByOffsets t = .of (fencedCode t) := by
  unfold codeByOffsets fencedCode
  rw [findLast?_eq]
  cases hclose : t.cutLast? fence with
  | none => rfl
  | some cut =>
    obtain ⟨before, after⟩ := cut
    have ht : t = before ++ (fence ++ after) := by rw [eq_of_cutLast? hclose, List.append_assoc]
    have hfront : t.sliced 0 before.bytes = .of (some before) := ht ▸ sliced_front before (fence ++ after)
    simp only [Option.map_some, Sliced.of_some_bind, Option.bind_eq_bind, Option.bind_some, hfront, findLast?_eq]
    cases hopen : before.cutLast? fence with
    | none => rfl
    | some cut =>
      obtain ⟨first, inner⟩ := cut
      have hb : before = first ++ fence ++ inner := eq_of_cutLast? hopen
      have hinner : t.sliced (first.bytes + fence.bytes) before.bytes = .of (some inner) := by
        refine sliced_part (a := first ++ fence) (b := fence ++ after) ?_ ?_ ?_ <;> simp [ht, hb, Nat.add_assoc]
      simp only [Option.map_some, Sliced.of_some_bind, Option.bind_some, hinner]
      cases inner.cut? ['\n'] <;> rfl

theorem nameByOffsets_eq (line : Text) : nameByOffsets line = .of (quotedName line) := by
  unfold nameByOffsets quotedName
  rw [find?_eq]
  cases hcut : line.cut? quote with
  | none => rfl
  | some cut =>
    obtain ⟨before, rest⟩ := cut
    obtain rfl := eq_of_cut? hcut
    have hrest := sliced_back (before ++ quote) rest
    rw [bytes_append] at hrest
    simp only [Option.map_some, Sliced.of_some_bind, Option.bind_eq_bind, Option.bind_some, hrest, find?_eq]
    cases hname : rest.cut? quote with
    | none => rfl
    | some cut =>
      obtain ⟨name, more⟩ := cut
      obtain rfl := eq_of_cut? hname
      rw [List.append_assoc]
      simp only [Option.map_some, sliced_front, Sliced.of_some_bind]

/-- The class is looked for in the code of the hover. -/
theorem classByOffsets_eq {h : Hover} (hc : h.code = some code) : classByOffsets code = .of h.className := by
  unfold classByOffsets className scopeLine
  rw [hc]
  simp only [Option.bind_eq_bind, Option.bind_some]
  refine Sliced.of_bind fun line hline => ?_
  obtain ⟨scope, rfl⟩ : scopeMark <+: line := by
    have := List.find?_some hline
    exact startsWith_iff.1 (by simpa using this)
  split
  · rfl
  · rw [sliced_back, Sliced.of_some_bind, stripStart?_append, Option.bind_some]

end Hover

/-! ## The declaration -/

namespace Declaration

variable {needle line code name : Text}

/-- The offset of the first whole occurrence of a needle, from an offset on. -/
def findByOffsets (line needle : Text) : Nat → Nat → Sliced Nat
  | 0, _ => .fault (.endless line)
  | fuel + 1, start => do
    let rest ← line.sliced start line.bytes
    let found ← .of (rest.find? needle)
    let before ← line.sliced 0 (start + found)
    if isBoundary before.getLast? then return start + found
    findByOffsets line needle fuel (start + found + needle.bytes)

/-- The first line of code that has `name(`, and the offset of the name in it. -/
def lineByOffsets (code name : Text) : Sliced (Text × Nat) :=
  Sliced.first (fun line => do return (line, ← findByOffsets line (name ++ "(") (line.length + 1) 0))
    (code.lines.filter (!isComment ·))

def typeByOffsets (code name : Text) : Sliced Text := do
  if templateMarks.any code.has then return []
  let (line, start) ← lineByOffsets code name
  let before ← line.sliced 0 start
  let afterKey (key : Text) : Sliced Text := do
    let found ← .of (before.find? key)
    before.sliced (found + key.bytes) before.bytes
  let type ← Sliced.first afterKey qualifiers <|> pure before
  return type.trim

def mainByOffsets (code name : Text) : Sliced Text := do
  if name.isEmpty then .of none
  else
    let (line, start) ← lineByOffsets code name
    let main ← line.sliced start line.bytes
    return withoutSuffixes main

/-- One round of the search is one step of the scan, and each round has fewer characters in front of
it. -/
theorem findByOffsets_eq (hne : needle ≠ []) {fuel : Nat} {a b : Text} (hfuel : b.length < fuel) :
    findByOffsets (a ++ b) needle fuel a.bytes =
      .of ((findFrom needle 0 a.getLast? b).map fun (before, _) => (a ++ before).bytes) := by
  induction fuel generalizing a b with
  | zero => omega
  | succ fuel ih =>
    rw [findByOffsets, sliced_back, Sliced.of_some_bind, find?_eq]
    cases hcut : b.cut? needle with
    | none =>
      rw [findFrom_eq_none (cut?_eq_none_iff.1 hcut)]
      rfl
    | some cut =>
      obtain ⟨x, y⟩ := cut
      have hb : b = x ++ needle ++ y := eq_of_cut? hcut
      have hfront := sliced_front (a ++ x) (needle ++ y)
      rw [bytes_append, List.append_assoc, ← List.append_assoc x, ← hb] at hfront
      rw [findFrom_of_cut hne hcut]
      simp only [Option.map_some, Sliced.of_some_bind, hfront, List.getLast?_append]
      split
      · simp
      · have hlength : y.length < fuel := by
          have := List.length_pos_iff.2 hne
          rw [hb] at hfuel
          simp only [List.length_append] at hfuel
          omega
        have hrest := ih (a := a ++ x ++ needle) hlength
        have hlast : (a ++ x ++ needle).getLast? = needle.getLast? := by
          rw [List.getLast?_append]
          cases h : needle.getLast? with
          | none => exact absurd (List.getLast?_eq_none_iff.1 h) hne
          | some c => rfl
        rw [hlast] at hrest
        simp only [bytes_append, List.append_assoc] at hrest
        rw [hb]
        simp only [List.append_assoc, bytes_append, hrest, Nat.add_assoc]
        cases findFrom needle 0 needle.getLast? y <;> simp

theorem lineByOffsets_eq (code name : Text) :
    lineByOffsets code name = .of ((declarationLine code name).map fun (before, main) => (before ++ main, before.bytes)) := by
  have hne : (name ++ "(" : Text) ≠ [] := by simp
  rw [lineByOffsets, declarationLine, List.map_findSome?]
  refine Sliced.first_eq fun line _ => ?_
  have hfind := findByOffsets_eq hne (a := []) (Nat.lt_succ_self line.length)
  rw [List.nil_append, bytes_nil] at hfind
  rw [hfind, Function.comp_apply, findIdentifier, List.getLast?_nil]
  cases h : findFrom (name ++ "(") 0 none line with
  | none => rfl
  | some cut =>
    obtain ⟨before, main⟩ := cut
    obtain ⟨rfl, -⟩ := findFrom_cut h
    rfl

theorem mainByOffsets_eq (code name : Text) : mainByOffsets code name = .of (functionMain code name) := by
  unfold mainByOffsets functionMain
  split
  · rfl
  · rw [lineByOffsets_eq]
    cases declarationLine code name with
    | none => rfl
    | some cut =>
      obtain ⟨before, main⟩ := cut
      simp only [Option.map_some, Sliced.of_some_bind, sliced_back]
      rfl

/-- The text behind a key. -/
theorem afterByOffsets_eq (before key : Text) : (do
    let found ← Sliced.of (before.find? key)
    before.sliced (found + key.bytes) before.bytes) = .of ((before.cut? key).map (·.2)) := by
  rw [find?_eq]
  cases hcut : before.cut? key with
  | none => rfl
  | some cut =>
    obtain ⟨a, b⟩ := cut
    have hb : before = a ++ key ++ b := eq_of_cut? hcut
    have hback := sliced_back (a ++ key) b
    rw [← hb, bytes_append] at hback
    exact hback

theorem typeByOffsets_eq (code name : Text) : typeByOffsets code name = .of (returnType code name) := by
  unfold typeByOffsets returnType
  split
  · rfl
  · rw [lineByOffsets_eq]
    cases declarationLine code name with
    | none => rfl
    | some cut =>
      obtain ⟨before, main⟩ := cut
      have hkeys := Sliced.first_eq fun key (_ : key ∈ qualifiers) => afterByOffsets_eq before key
      simp only [Option.map_some, Sliced.of_some_bind, sliced_front]
      rw [hkeys, Sliced.pure_eq, Sliced.of_orElse]
      simp only [Option.bind_eq_bind, Option.bind_some, afterQualifier]
      cases qualifiers.findSome? fun key => (before.cut? key).map (·.2) <;> rfl

end Declaration

/-! ## The signature -/

namespace Signature

/-- The function that a hover describes. -/
def ofHoverByOffsets (h : Hover) : Sliced Signature := do
  let code? ← OptionT.lift (Hover.codeByOffsets h.text).run
  let kind := SignatureKind.classify h.title
  if kind = .unknown then .of none
  let name ← Hover.nameByOffsets h.title
  let code ← .of code?
  match kind with
  | .constructor =>
    let className ← Hover.classByOffsets code <|> pure []
    let main ← Declaration.mainByOffsets code name <|> Declaration.mainByOffsets code className
    return ⟨kind, [], name, className, [], main⟩
  | .staticMethod | .method =>
    let className ← Hover.classByOffsets code <|> pure []
    let type ← Declaration.typeByOffsets code name
    let main ← Declaration.mainByOffsets code name
    return ⟨kind, type, name, className, [], main⟩
  | .destructor => return ⟨kind, "void", name, name.dropWhile (· == '~'), [], []⟩
  | .freeFunction =>
    let type ← Declaration.typeByOffsets code name
    let main ← Declaration.mainByOffsets code name
    return ⟨kind, type, name, [], h.namespaceName.getD [], main⟩
  | .unknown => .of none

/-- **Reading by offsets never stops** and gives the signature of the hover. -/
theorem ofHoverByOffsets_eq (h : Hover) : ofHoverByOffsets h = .of (ofHover? h) := by
  have hcode : OptionT.lift (Hover.codeByOffsets h.text).run = Sliced.of (some h.code) := by
    rw [Hover.codeByOffsets_eq]
    rfl
  unfold ofHoverByOffsets ofHover?
  rw [hcode, Sliced.of_some_bind]
  simp only [Hover.nameByOffsets_eq, Declaration.typeByOffsets_eq, Declaration.mainByOffsets_eq, ← Hover.entity.eq_1]
  generalize SignatureKind.classify h.title = kind
  by_cases hkind : kind = .unknown
  · subst hkind
    rfl
  rw [if_neg hkind, if_neg hkind]
  cases hname : h.entity with
  | none => rfl
  | some name =>
    cases hc : h.code with
    | none => rfl
    | some code =>
      have hclass : (Hover.classByOffsets code <|> pure []) = Sliced.of (some (h.className.getD [])) := by
        rw [Hover.classByOffsets_eq hc]
        cases h.className <;> rfl
      simp only [Sliced.of_some_bind, Option.bind_eq_bind, Option.bind_some, hclass, Sliced.of_orElse]
      cases kind with
      | constructor =>
        cases (Declaration.functionMain code name).or (Declaration.functionMain code (h.className.getD [])) <;> rfl
      | staticMethod | method | freeFunction =>
        cases Declaration.returnType code name with
        | none => rfl
        | some type => cases Declaration.functionMain code name <;> rfl
      | destructor | unknown => rfl

end Signature
end Classwright
