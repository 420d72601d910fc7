import Mathlib.Tactic.Common
import Classwright.Proofs.BuildLog.Location
import Classwright.Proofs.Number.Digits
/-!
# Printed locations

Compilers print a location as path, line and column behind colons, or as path and line in brackets. A
path in which no colon is followed by a digit holds no mark of a place, so the path, and the numbers that
were printed behind it, are what is read (`ofMessage?_printed`).
-/
namespace Classwright.Location

variable {p u d : Text} {c : Char} {l k : Nat}

/-- Path, line and column behind colons. -/
def colonText (p : Text) (l k : Nat) : Text := p ++ ':' :: natText l ++ ':' :: natText k

/-- Path, and line in brackets. -/
def bracketText (p : Text) (l : Nat) : Text := p ++ '(' :: natText l ++ [')']

/-- Somewhere in the text a digit follows the character. -/
def DigitBehind (c : Char) (t : Text) : Prop := ∃ d, isDecimalDigit d = true ∧ [c, d] <:+: t

/-- The digit is one of the text, so only its characters have to be tried. -/
instance (c : Char) (t : Text) : Decidable (DigitBehind c t) :=
  decidable_of_iff (t.any (fun d => isDecimalDigit d && decide ([c, d] <:+: t)) = true) <| by
    simp only [List.any_eq_true, Bool.and_eq_true, decide_eq_true_eq]
    exact ⟨fun ⟨d, _, h⟩ => ⟨d, h⟩, fun ⟨d, hd, hi⟩ => ⟨d, hi.subset (by simp), hd, hi⟩⟩

/-! ## Numbers -/

theorem digits_natText (n : Nat) : Digits (natText n) := by
  obtain ⟨d, digits, heq, -⟩ := natText_eq n
  refine ⟨by simp [heq], ?_⟩
  intro c hc
  rw [isDecimalDigit, isDigit_of_mem_natText hc, Bool.true_or]

theorem number?_natText {n : Nat} (h : n < twoTo 32) : number? (natText n) = some n := natBelow?_natText h

/-! ## Paths without marks -/

/-- Behind the path there is only one colon, and a mark would need a second one. -/
theorem not_has_colonMark_append (h : ¬ DigitBehind ':' p) (hd : Digits d) : ¬ Has ColonMark (p ++ ':' :: d) := by
  rw [has_append_iff (not_has_colonMark_cons hd)]
  rintro ⟨_, s, ⟨l, c, hl, -, rfl⟩, hs, hne, hp⟩
  -- the mark begins in the path, and its first digit stands behind a colon
  obtain ⟨x, l, rfl⟩ := List.exists_cons_of_ne_nil hl.1
  have hx : isDecimalDigit x = true := hl.2 x (by simp)
  obtain ⟨y, s, rfl⟩ := List.exists_cons_of_ne_nil hne
  simp only [List.cons_append, List.cons_prefix_cons] at hp
  obtain ⟨rfl, hp⟩ := hp
  cases s with
  | nil =>
    -- it would be the colon behind the path
    obtain ⟨rfl, -⟩ := List.cons_prefix_cons.1 hp
    exact absurd hx (by decide)
  | cons z s =>
    obtain ⟨rfl, -⟩ := List.cons_prefix_cons.1 hp
    exact h ⟨x, hx, (List.prefix_append [':', x] s).isInfix.trans hs.isInfix⟩

theorem not_has_bracketMark (h : ¬ DigitBehind '(' p) : ¬ Has BracketMark p := by
  rintro ⟨_, ⟨l, hl, rfl⟩, hi⟩
  obtain ⟨x, l, rfl⟩ := List.exists_cons_of_ne_nil hl.1
  exact h ⟨x, hl.2 x (by simp), (List.prefix_append ['(', x] (l ++ [')'])).isInfix.trans hi⟩

/-! ## Reading what was printed -/

theorem ofMessage?_colonText (hline : '\n' ∉ p) (hcolon : ¬ DigitBehind ':' p) (hl : l < twoTo 32) (hk : k < twoTo 32)
    (hu : EndsDigits u) : ofMessage? (colonText p l k ++ u) = some ⟨colonText p l k, p, l, k⟩ := by
  have hfirst : ¬ Has ColonMark (p ++ ':' :: natText l) := not_has_colonMark_append hcolon (digits_natText l)
  have hplace : shortest? colonPlace? (colonText p l k ++ u) = some (p, natText l, natText k) :=
    shortest?_colonPlace?_eq_some_iff.2 ⟨hline, digits_natText l, digits_natText k, hfirst, u, rfl, hu⟩
  rw [ofMessage?, hplace]
  simp only [number?_natText hl, number?_natText hk]
  rfl

/-- Without a mark of the first kind in the message, the second kind is read. -/
theorem ofMessage?_bracketText (hline : '\n' ∉ p) (hbracket : ¬ DigitBehind '(' p) (hl : l < twoTo 32) (hu : '\n' ∉ u)
    (hmark : ¬ Has ColonMark (bracketText p l ++ u)) :
    ofMessage? (bracketText p l ++ u) = some ⟨bracketText p l, p, l, 1⟩ := by
  have hnumber : '\n' ∉ natText l := notMem_of_digits (digits_natText l) (by decide)
  have hmessage : '\n' ∉ bracketText p l ++ u := by
    simp [bracketText, hline, hnumber, hu]
  have htext : bracketText p l ++ u = p ++ '(' :: natText l ++ ')' :: u := by
    simp [bracketText]
  rw [ofMessage?_eq_some_iff hmessage]
  rw [htext] at hmark ⊢
  exact .bracket (digits_natText l) (number?_natText hl) hline hmark (not_has_bracketMark hbracket)

/-- **Printed locations are read back.** Behind a path in which no digit follows a colon, line and column
are read up to the next character that is no digit. When no digit follows a bracket either, a line in
brackets is read in a message of one line without a mark of the first kind. -/
theorem ofMessage?_printed (hline : '\n' ∉ p) (hcolon : ¬ DigitBehind ':' p) :
    (∀ l < twoTo 32, ∀ k < twoTo 32, ∀ u, EndsDigits u →
      ofMessage? (colonText p l k ++ u) = some ⟨colonText p l k, p, l, k⟩) ∧
    (¬ DigitBehind '(' p → ∀ l < twoTo 32, ∀ u, '\n' ∉ u → ¬ Has ColonMark (bracketText p l ++ u) →
      ofMessage? (bracketText p l ++ u) = some ⟨bracketText p l, p, l, 1⟩) := by
  constructor
  · intro l hl k hk u hu
    exact ofMessage?_colonText hline hcolon hl hk hu
  · intro hbracket l hl u hu hmark
    exact ofMessage?_bracketText hline hbracket hl hu hmark

/-- A path with colons and brackets, of a drive. -/
def drivePath : Text := "C:\\a (b)\\x::y.cpp"

theorem ofMessage?_printed_drive : '\n' ∉ drivePath ∧ ¬ DigitBehind ':' drivePath ∧ ¬ DigitBehind '(' drivePath ∧
    ofMessage? (colonText drivePath 0 4294967295 ++ ":9:9(2)") = some ⟨colonText drivePath 0 4294967295, drivePath, 0, 4294967295⟩ ∧
    ofMessage? (bracketText drivePath 14 ++ ": error C2065: 1:x") = some ⟨bracketText drivePath 14, drivePath, 14, 1⟩ := by
  have hline : '\n' ∉ drivePath := by decide
  have hcolon : ¬ DigitBehind ':' drivePath := by decide +kernel
  have hbracket : ¬ DigitBehind '(' drivePath := by decide +kernel
  have hmark : ¬ Has ColonMark (bracketText drivePath 14 ++ ": error C2065: 1:x") :=
    (shortest?_eq_none_iff reads_colonPlace? (by decide)).1 (by decide +kernel)
  obtain ⟨hread, hreadBracket⟩ := ofMessage?_printed hline hcolon
  refine ⟨hline, hcolon, hbracket, ?_, ?_⟩
  · exact hread 0 (by decide) 4294967295 (by decide) _ (endsDigits_cons.2 (by decide))
  · exact hreadBracket hbracket 14 (by decide) _ (by decide) hmark

end Classwright.Location
