import Classwright.Proofs.HeaderGuard.Find
import Classwright.Proofs.HeaderGuard.Pattern
import Classwright.Proofs.Text.Search
/-!
# Reading what was written

A line that holds a directive of a guard (`Holds`) is read again by the reader of this directive when
at most one carriage return ends it (`Holds.read_eq`), and by no other reader.
-/
namespace Classwright.HeaderGuard

open Text

variable {t u g d x y key : Text} {n : Nat} {w : Lines}

/-! ## Lines that hold a directive -/

/-- The carriage returns at the end of a line of a text. -/
def returnsAt (t : Text) (n : Nat) : Text := (t.pieces.getD n []).returns

/-- The line has the directive and nothing else, but for carriage returns at its end. -/
def Holds (t : Text) (n : Nat) (d : Text) : Prop := t.pieces[n]? = some (d ++ returnsAt t n)

theorem eq_return_of_mem_returnsAt {c : Char} (h : c ∈ returnsAt t n) : c = '\r' := eq_return_of_mem_returns h

theorem returnsAt_eq {line : Text} (h : t.pieces[n]? = some line) : returnsAt t n = line.returns := by
  rw [returnsAt, List.getD_eq_getElem?_getD, h]
  rfl

/-- A line of a directive and carriage returns holds the directive. -/
theorem holds_of_getElem? (hd : TightEnd d) {r : Text} (hr : ∀ c ∈ r, c = '\r') (h : t.pieces[n]? = some (d ++ r)) :
    Holds t n d ∧ returnsAt t n = r := by
  have hat : returnsAt t n = r := (returnsAt_eq h).trans (hd.returns_append hr)
  rw [Holds, hat]
  exact ⟨h, rfl⟩

/-- From a line that holds a directive on: its carriage returns, and then nothing or a line feed. -/
theorem Holds.fromLine (h : Holds t n d) :
    ∃ rest, t.fromLine n = d ++ (returnsAt t n ++ rest) ∧ (rest = [] ∨ ∃ z, rest = '\n' :: z) := by
  obtain ⟨rest, hf, hrest⟩ := exists_fromLine_eq h
  exact ⟨rest, by rw [hf, List.append_assoc], hrest⟩

/-! ## The directives of a guard -/

theorem ifndefText_eq (g : Text) : ifndefText g = "#ifndef".toList ++ ' ' :: g := rfl

theorem defineText_eq (g : Text) : defineText g = "#define".toList ++ ' ' :: g := rfl

theorem endifText_eq (g : Text) : endifText g = "#endif".toList ++ ' ' :: ("//".toList ++ ' ' :: g) := rfl

theorem Word.of_isIdentifier (hg : g.IsIdentifier) : Word g := ⟨hg.1, fun _ => hg.not_blank⟩

theorem Word.tightEnd (hg : Word g) : TightEnd g :=
  ⟨g.dropLast, g.getLast hg.1, (List.dropLast_concat_getLast hg.1).symm, hg.2 _ (List.getLast_mem hg.1)⟩

theorem Word.newline_notMem (hg : Word g) : '\n' ∉ g := fun h => absurd (hg.2 _ h) (by decide)

section Tight

variable (hg : Word g)
include hg

theorem tightEnd_ifndefText : TightEnd (ifndefText g) := hg.tightEnd.append _

theorem tightEnd_defineText : TightEnd (defineText g) := hg.tightEnd.append _

theorem tightEnd_endifText : TightEnd (endifText g) := hg.tightEnd.append _

end Tight

/-! ## What its reader reads -/

theorem readAfter_append {α : Type} (read : Text → Option α) (hx : TightStart x) (key : Text) :
    readAfter key read (key ++ ' ' :: x) = read x := by
  have hblanks : afterBlanks? (' ' :: x) = some x := by
    have htrim : trimStart (' ' :: x) = x := (trimStart_append_of_blank (x := [' ']) (by decide) x).trans hx.trimStart
    rw [afterBlanks?, htrim]
    rfl
  rw [readAfter, stripStart?_eq_some_iff.2 rfl, Option.bind_eq_bind, Option.bind_some, hblanks]
  rfl

theorem tightStart_lineComment (x : Text) : TightStart ("//".toList ++ x) := ⟨'/', '/' :: x, rfl, by decide⟩

/-- A macro with white space or nothing behind it is read when this can be the end of a line. -/
theorem macro?_append (hg : Word g) (hy : y = [] ∨ ∃ c z, y = c :: z ∧ isBlankChar c = true) :
    macro? (g ++ y) = if endsLine y then some g else none := by
  rw [macro?, word?_append hg hy]
  rfl

/-- Carriage returns at the end of a line end it when there is at most one. -/
theorem endsLine_returns {r : Text} (hr : ∀ c ∈ r, c = '\r') (hy : y = [] ∨ ∃ z, y = '\n' :: z) :
    endsLine (r ++ y) = decide (r.length ≤ 1) := by
  have hend : endsLine y = true := by
    rcases hy with rfl | ⟨z, rfl⟩ <;> rfl
  have hend' : endsLine ('\r' :: y) = true := by
    rcases hy with rfl | ⟨z, rfl⟩ <;> rfl
  match r, hr with
  | [], _ => exact hend
  | [c], hr => rw [hr c (by simp)]; exact hend'
  | c :: c' :: r, hr =>
    rw [hr c (by simp), hr c' (by simp)]
    simp [endsLine, stripStart?]

/-- **A directive that was written** is read again when at most one carriage return ends its line. -/
theorem Holds.read_eq {read : Text → Option Text} (h : Holds t n d) (hg : Word g)
    (hd : ∀ y, read (d ++ y) = macro? (g ++ y)) :
    read (t.fromLine n) = if (returnsAt t n).length ≤ 1 then some g else none := by
  obtain ⟨rest, hf, hrest⟩ := h.fromLine
  have hy : returnsAt t n ++ rest = [] ∨ ∃ c z, returnsAt t n ++ rest = c :: z ∧ isBlankChar c = true := by
    cases hr : returnsAt t n with
    | nil =>
      rcases hrest with rfl | ⟨z, rfl⟩
      · exact Or.inl rfl
      · exact Or.inr ⟨'\n', z, rfl, by decide⟩
    | cons c r =>
      obtain rfl : c = '\r' := eq_return_of_mem_returnsAt (t := t) (n := n) (by simp [hr])
      exact Or.inr ⟨'\r', r ++ rest, rfl, by decide⟩
  rw [hf, hd, macro?_append hg hy, endsLine_returns (fun _ => eq_return_of_mem_returnsAt) hrest]
  simp

section Readers

variable (hg : Word g) (y : Text)
include hg

theorem macroAfter?_append (key : Text) : macroAfter? key (key ++ ' ' :: (g ++ y)) = macro? (g ++ y) := by
  rw [macroAfter?_eq]
  exact readAfter_append _ (hg.tightStart.append y) key

theorem macroAfter?_ifndefText : macroAfter? "#ifndef" (ifndefText g ++ y) = macro? (g ++ y) := by
  rw [ifndefText_eq, List.append_assoc, List.cons_append]
  exact macroAfter?_append hg y _

theorem macroAfter?_defineText : macroAfter? "#define" (defineText g ++ y) = macro? (g ++ y) := by
  rw [defineText_eq, List.append_assoc, List.cons_append]
  exact macroAfter?_append hg y _

theorem endifLine?_endifText : endifLine? (endifText g ++ y) = macro? (g ++ y) := by
  rw [endifLine?_eq, endifText_eq]
  simp only [List.append_assoc, List.cons_append]
  rw [readAfter_append _ (tightStart_lineComment _)]
  exact readAfter_append _ (hg.tightStart.append y) _

end Readers

section Directives

variable (hg : g.IsIdentifier) (y : Text)
include hg

theorem beginsDirective_append {word : Text} (hw : word.any isBlankChar = false) (hs : '/' ∉ word) :
    BeginsDirective ('#' :: word ++ ' ' :: (g ++ y)) := by
  obtain ⟨c, rest, rfl⟩ := List.exists_cons_of_ne_nil hg.1
  refine ⟨word, c, rest ++ y, rfl, hw, hs, hg.not_blank (by simp), ?_⟩
  rintro rfl
  exact absurd (hg.isNameChar (by simp : '*' ∈ _)) (by decide)

theorem beginsDirective_ifndefText : BeginsDirective (ifndefText g ++ y) := by
  rw [ifndefText_eq, List.append_assoc, List.cons_append]
  have hw : "ifndef".toList.any isBlankChar = false := by decide
  exact beginsDirective_append hg y hw (by decide)

theorem beginsDirective_defineText : BeginsDirective (defineText g ++ y) := by
  rw [defineText_eq, List.append_assoc, List.cons_append]
  have hw : "define".toList.any isBlankChar = false := by decide
  exact beginsDirective_append hg y hw (by decide)

end Directives

theorem beginsDirective_endifText (g y : Text) : BeginsDirective (endifText g ++ y) :=
  ⟨"endif".toList, '/', '/' :: ' ' :: (g ++ y), rfl, by decide, by decide, by decide, by decide⟩

/-! ## What other readers read -/

theorem endifBlock?_endifText (g y : Text) : endifBlock? (endifText g ++ y) = none := by
  rw [endifBlock?_eq, endifText_eq]
  simp only [List.append_assoc, List.cons_append]
  rw [readAfter_append _ (tightStart_lineComment _)]
  rfl

theorem isBareEndif_endifText (g y : Text) : isBareEndif (endifText g ++ y) = false := by
  rw [isBareEndif, endifText_eq]
  simp only [List.append_assoc, List.cons_append]
  rw [stripStart?_eq_some_iff.2 rfl]
  exact endsLine_argument (c := '/') (by decide) ('/' :: ' ' :: (g ++ y))

/-- A reader of one directive reads nothing from another one. -/
theorem eq_none_of_prefix {α : Type} {read : Text → Option α} {key' : Text}
    (hread : ∀ {t a}, read t = some a → key <+: t) (h : key' <+: t) (hk : ¬ key <+: key') (hk' : ¬ key' <+: key) :
    read t = none := by
  rw [Option.eq_none_iff_forall_not_mem]
  intro a ha
  exact not_prefix_of_prefix h hk hk' (hread ha)

end Classwright.HeaderGuard
