import Classwright.Json.Basic
import Classwright.Json.Reader
import Classwright.Proofs.Number.Digits
import Classwright.Proofs.Text.Trim
/-!
# Numbers in JSON

A number is read up to the end of its value, whatever stands behind it (`NumberReader`). A whole number
of 64 bits is read from its decimal text (`readUnsigned_natText`).
-/
namespace Classwright.Json

open Text

variable {rest t : Text} {c : Char} {v k : Nat} {negative : Bool}

/-- A value ends in front of the text: nothing follows, or a comma or a closing bracket. -/
def EndsValue (rest : Text) : Prop := rest = [] ∨ ∃ c more, rest = c :: more ∧ (c = ',' ∨ c = ']' ∨ c = '\x7d')

theorem EndsValue.cases (h : EndsValue rest) : rest = [] ∨ ∃ c more, rest = c :: more ∧ c.isDigit = false ∧
    c ≠ '.' ∧ c ≠ 'e' ∧ c ≠ 'E' ∧ c ≠ '+' ∧ c ≠ '-' := by
  obtain rfl | ⟨c, more, rfl, hc⟩ := h
  · exact Or.inl rfl
  · refine Or.inr ⟨c, more, rfl, ?_⟩
    obtain rfl | rfl | rfl := hc <;> decide

theorem takeWhile_isDigit_append (h : EndsValue rest) (t : Text) :
    (t ++ rest).takeWhile Char.isDigit = t.takeWhile Char.isDigit := by
  obtain rfl | ⟨c, more, rfl, hc, -⟩ := h.cases
  · rw [List.append_nil]
  · exact takeWhile_append_cons hc t more

theorem dropWhile_isDigit_append (h : EndsValue rest) (t : Text) :
    (t ++ rest).dropWhile Char.isDigit = t.dropWhile Char.isDigit ++ rest := by
  obtain rfl | ⟨c, more, rfl, hc, -⟩ := h.cases
  · rw [List.append_nil, List.append_nil]
  · exact dropWhile_append_cons hc t more

/-! ## Taking digits -/

theorem takeDigits_of_ends (h : EndsValue rest) (v k : Nat) : takeDigits v k rest = (v, k, rest) := by
  obtain rfl | ⟨c, more, rfl, hc, -⟩ := h.cases
  · rfl
  · rw [takeDigits, hc]
    rfl

theorem takeDigits_append (h : EndsValue rest) (v k : Nat) (t : Text) :
    takeDigits v k (t ++ rest) = ((takeDigits v k t).1, (takeDigits v k t).2.1, (takeDigits v k t).2.2 ++ rest) := by
  induction t generalizing v k with
  | nil => exact takeDigits_of_ends h v k
  | cons c t ih =>
    rw [List.cons_append, takeDigits, takeDigits]
    split
    · exact ih _ _
    · rfl

theorem takeDigits_suffix (v k : Nat) (t : Text) : (takeDigits v k t).2.2 <:+ t := by
  induction t generalizing v k with
  | nil => exact List.suffix_rfl
  | cons c t ih =>
    rw [takeDigits]
    split
    · exact (ih _ _).trans (List.suffix_cons c t)
    · exact List.suffix_rfl

theorem takeDigits_lt (h : v < twoTo 64) (k : Nat) (t : Text) : (takeDigits v k t).1 < twoTo 64 := by
  induction t generalizing v k with
  | nil => exact h
  | cons c t ih =>
    rw [takeDigits]
    split
    · rename_i hc
      simp only [Bool.and_eq_true, decide_eq_true_eq] at hc
      exact ih hc.2 _
    · exact h

/-- Digits are taken as long as the number they make up fits. -/
theorem takeDigits_eq (hrest : EndsValue rest) {digits : Text} (hall : digits.all Char.isDigit = true)
    (hlt : valueFrom v digits < twoTo 64) (k : Nat) :
    takeDigits v k (digits ++ rest) = (valueFrom v digits, k + digits.length, rest) := by
  induction digits generalizing v k with
  | nil => exact takeDigits_of_ends hrest v k
  | cons c digits ih =>
    rw [List.all_cons, Bool.and_eq_true] at hall
    rw [valueFrom_cons] at hlt ⊢
    have hle := le_valueFrom (v * 10 + digitValue c) digits
    rw [List.cons_append, takeDigits, if_pos (by simp [hall.1]; omega), ih hall.2 hlt, List.length_cons, Nat.add_assoc,
      Nat.add_comm 1]

/-! ## Readers of numbers -/

/-- A number: a whole one of 64 bits, or a double. -/
def IsNumber (j : Json) : Prop :=
  (∃ n : Int, j = .int n ∧ -(twoTo 63 : Int) ≤ n ∧ n < twoTo 64) ∨ ∃ d, j = .double d

/-- What is read does not depend on what follows the value; the rest is the end of the text, and what
is read is a number. -/
structure NumberReader (read : Text → Option (Json × Text)) : Prop where
  append : ∀ t rest, EndsValue rest → read (t ++ rest) = (read t).map fun (j, more) => (j, more ++ rest)
  suffix : ∀ t j more, read t = some (j, more) → more <:+ t
  isNumber : ∀ t j more, read t = some (j, more) → j.IsNumber

theorem numberReader_double (d : Option Double) : NumberReader fun t => d.map fun d => (.double d, t) where
  append t rest _ := by cases d <;> rfl
  suffix t j more h := by
    obtain ⟨d, -, h⟩ := Option.map_eq_some_iff.1 h
    cases h
    exact List.suffix_rfl
  isNumber t j more h := by
    obtain ⟨d, -, h⟩ := Option.map_eq_some_iff.1 h
    cases h
    exact Or.inr ⟨d, rfl⟩

variable {read : Text → Option (Json × Text)}

/-- Digits in front, which the reader behind them may use. -/
theorem NumberReader.afterDigits {read : Text → Text → Option (Json × Text)} (h : ∀ digits, NumberReader (read digits)) :
    NumberReader fun t => read (t.takeWhile Char.isDigit) (t.dropWhile Char.isDigit) where
  append t rest hrest := by
    rw [takeWhile_isDigit_append hrest, dropWhile_isDigit_append hrest]
    exact (h _).append _ rest hrest
  suffix t j more hread := ((h _).suffix _ _ _ hread).trans (List.dropWhile_suffix _)
  isNumber t j more hread := (h _).isNumber _ _ _ hread

theorem NumberReader.ite {p : Prop} [Decidable p] {read' : Text → Option (Json × Text)} (h : NumberReader read)
    (h' : NumberReader read') : NumberReader fun t => if p then read t else read' t := by
  split
  · exact h
  · exact h'

theorem numberReader_none : NumberReader fun _ => none where
  append _ _ _ := rfl
  suffix _ _ _ h := nomatch h
  isNumber _ _ _ h := nomatch h

/-- The text goes on with a mark, or the number ends in another way. -/
def branch (p : Char → Bool) (read read' : Text → Option (Json × Text)) : Text → Option (Json × Text)
  | [] => read' []
  | c :: t => if p c then read t else read' (c :: t)

/-- Characters by which a number goes on. -/
def marks : Text := ['.', 'e', 'E', '+', '-']

theorem NumberReader.branch {p : Char → Bool} (hp : ∀ c, p c = true → c ∈ marks) {read' : Text → Option (Json × Text)}
    (h : NumberReader read) (h' : NumberReader read') : NumberReader (branch p read read') where
  append t rest hrest := by
    cases t with
    | nil =>
      obtain rfl | ⟨c, more, rfl, hc⟩ := hrest.cases
      · exact h'.append [] [] hrest
      · have : p c ≠ true := fun hpc => by
          have := hp c hpc
          simp [marks, hc] at this
        exact (if_neg this).trans (h'.append [] (c :: more) hrest)
    | cons c t =>
      rw [List.cons_append, Json.branch, Json.branch]
      split
      · exact h.append t rest hrest
      · exact h'.append (c :: t) rest hrest
  suffix t j more hread := by
    cases t with
    | nil => exact h'.suffix _ _ _ hread
    | cons c t =>
      rw [Json.branch] at hread
      split at hread
      · exact (h.suffix _ _ _ hread).trans (List.suffix_cons c t)
      · exact h'.suffix _ _ _ hread
  isNumber t j more hread := by
    cases t with
    | nil => exact h'.isNumber _ _ _ hread
    | cons c t =>
      rw [Json.branch] at hread
      split at hread
      · exact h.isNumber _ _ _ hread
      · exact h'.isNumber _ _ _ hread

/-! ## The parts of a number -/

/-- The digits of an exponent and what number they make. -/
def exponentDigits (negative : Bool) (significand : Nat) (start : Int) (down : Bool) (t : Text) : Option (Json × Text) :=
  let digits := t.takeWhile Char.isDigit
  let rest := t.dropWhile Char.isDigit
  if digits.isEmpty then none
  else
    let e := valueOfDigits digits
    if maxExponent < e then
      if significand ≠ 0 ∧ !down then none
      else some (.double ⟨negative, 0, -1074⟩, rest)
    else
      let e : Int := if down then start - e else start + e
      (doubleOfParts negative significand e).map fun d => (.double d, rest)

theorem readExponent_eq (negative : Bool) (significand : Nat) (start : Int) : readExponent negative significand start =
    branch (· == '+') (exponentDigits negative significand start false)
      (branch (· == '-') (exponentDigits negative significand start true) (exponentDigits negative significand start false)) := by
  funext t
  rcases t with _ | ⟨c, t⟩
  · rfl
  · by_cases hplus : c = '+'
    · subst hplus
      rfl
    · by_cases hminus : c = '-'
      · subst hminus
        rfl
      · simp [readExponent, branch, hplus, hminus, exponentDigits]

theorem readAfterFraction_eq (negative : Bool) (significand : Nat) (exponent : Int) :
    readAfterFraction negative significand exponent =
      branch (fun c => c == 'e' || c == 'E') (readExponent negative significand exponent)
        fun t => (doubleOfParts negative significand exponent).map fun d => (.double d, t) := by
  funext t
  rcases t with _ | ⟨c, t⟩
  · rfl
  · by_cases he : c = 'e'
    · subst he
      rfl
    · by_cases hE : c = 'E'
      · subst hE
        rfl
      · simp [readAfterFraction, branch, he, hE]

/-- Whole digits with nothing behind them that belongs to the number. -/
def wholeNumber (negative : Bool) (significand : Nat) (t : Text) : Option (Json × Text) :=
  if !negative then some (.int significand, t)
  else if significand = 0 ∨ twoTo 63 < significand then
    (Double.ofRatio? true significand 1).map fun d => (.double d, t)
  else some (.int (-significand), t)

theorem readAfterWhole_eq (negative : Bool) (significand : Nat) : readAfterWhole negative significand =
    branch (· == '.') (readFraction negative significand 0)
      (branch (fun c => c == 'e' || c == 'E') (readExponent negative significand 0) (wholeNumber negative significand)) := by
  funext t
  rcases t with _ | ⟨c, t⟩
  · rfl
  · by_cases hdot : c = '.'
    · subst hdot
      rfl
    · by_cases he : c = 'e'
      · subst he
        rfl
      · by_cases hE : c = 'E'
        · subst hE
          rfl
        · simp [readAfterWhole, branch, hdot, he, hE, wholeNumber]

/-- Digits that do not fit, and what is behind them. -/
def afterLong (negative : Bool) (significand : Nat) (digits : Text) : Text → Option (Json × Text) :=
  branch (· == '.') (readFraction negative significand digits.length)
    (readAfterFraction negative significand digits.length)

theorem readLong_eq (negative : Bool) (significand : Nat) (t : Text) : readLong negative significand t =
    afterLong negative significand (t.takeWhile Char.isDigit) (t.dropWhile Char.isDigit) := by
  rw [readLong, afterLong]
  rcases t.dropWhile Char.isDigit with _ | ⟨c, rest⟩
  · rfl
  · by_cases hdot : c = '.'
    · subst hdot
      rfl
    · simp [branch, hdot]

/-! ## All of them are readers of numbers -/

theorem numberReader_exponentDigits (negative : Bool) (significand : Nat) (start : Int) (down : Bool) :
    NumberReader (exponentDigits negative significand start down) := by
  have hread : ∀ digits : Text, NumberReader fun rest => if digits.isEmpty then none
      else if maxExponent < valueOfDigits digits then
        (if significand ≠ 0 ∧ !down then none else some (.double ⟨negative, 0, -1074⟩, rest))
      else (doubleOfParts negative significand
        (if down then start - valueOfDigits digits else start + valueOfDigits digits)).map fun d => (.double d, rest) :=
    fun digits => .ite numberReader_none (.ite (.ite numberReader_none (numberReader_double (some _))) (numberReader_double _))
  exact .afterDigits hread

theorem numberReader_readExponent (negative : Bool) (significand : Nat) (start : Int) :
    NumberReader (readExponent negative significand start) := by
  rw [readExponent_eq]
  exact .branch (by simp [marks]) (numberReader_exponentDigits ..)
    (.branch (by simp [marks]) (numberReader_exponentDigits ..) (numberReader_exponentDigits ..))

theorem numberReader_readAfterFraction (negative : Bool) (significand : Nat) (exponent : Int) :
    NumberReader (readAfterFraction negative significand exponent) := by
  rw [readAfterFraction_eq]
  exact .branch (by simp +contextual [marks]) (numberReader_readExponent ..) (numberReader_double _)

theorem numberReader_readFraction (negative : Bool) (significand : Nat) (exponent : Int) :
    NumberReader (readFraction negative significand exponent) where
  append t rest hrest := by
    simp only [readFraction, takeDigits_append hrest, takeWhile_isDigit_append hrest, dropWhile_isDigit_append hrest]
    split
    · rfl
    · exact (numberReader_readAfterFraction ..).append _ rest hrest
  suffix t j more hread := by
    simp only [readFraction] at hread
    split at hread
    · cases hread
    · exact ((numberReader_readAfterFraction ..).suffix _ _ _ hread).trans
        ((List.dropWhile_suffix _).trans (takeDigits_suffix ..))
  isNumber t j more hread := by
    simp only [readFraction] at hread
    split at hread
    · cases hread
    · exact (numberReader_readAfterFraction ..).isNumber _ _ _ hread

theorem numberReader_wholeNumber (negative : Bool) {significand : Nat} (h : significand < twoTo 64) :
    NumberReader (wholeNumber negative significand) where
  append t rest hrest := by
    unfold wholeNumber
    split
    · rfl
    · split
      · exact (numberReader_double _).append t rest hrest
      · rfl
  suffix t j more hread := by
    unfold wholeNumber at hread
    split at hread
    · cases hread
      exact List.suffix_rfl
    · split at hread
      · exact (numberReader_double _).suffix t j more hread
      · cases hread
        exact List.suffix_rfl
  isNumber t j more hread := by
    unfold wholeNumber at hread
    split at hread
    · cases hread
      exact Or.inl ⟨significand, rfl, by omega, by omega⟩
    · split at hread
      · exact (numberReader_double _).isNumber t j more hread
      · rename_i hsize
        cases hread
        simp only [not_or, Nat.not_lt] at hsize
        exact Or.inl ⟨-significand, rfl, by omega, by omega⟩

theorem numberReader_readAfterWhole (negative : Bool) {significand : Nat} (h : significand < twoTo 64) :
    NumberReader (readAfterWhole negative significand) := by
  rw [readAfterWhole_eq]
  exact .branch (by simp [marks]) (numberReader_readFraction ..)
    (.branch (by simp +contextual [marks]) (numberReader_readExponent ..) (numberReader_wholeNumber negative h))

theorem numberReader_readLong (negative : Bool) (significand : Nat) : NumberReader (readLong negative significand) := by
  rw [funext (readLong_eq negative significand)]
  exact .afterDigits fun digits =>
    .branch (by simp [marks]) (numberReader_readFraction ..) (numberReader_readAfterFraction ..)

theorem digitValue_lt (h : c.isDigit = true) : digitValue c < 10 := by
  have h2 := (Char.isDigit_iff_toNat.1 h).2
  have h9 : '9'.toNat = 57 := rfl
  unfold digitValue
  omega

/-- Digits that follow the first one, and how the number goes on behind them. -/
def afterDigits (negative : Bool) (value : Nat) (more : Text) : Option (Json × Text) :=
  if more.head?.any Char.isDigit then readLong negative value more else readAfterWhole negative value more

theorem readUnsigned_zero (negative : Bool) (rest : Text) : readUnsigned negative ('0' :: rest) =
    if rest.head?.any Char.isDigit then none else readAfterWhole negative 0 rest := by
  rcases rest with _ | ⟨d, rest⟩ <;> rfl

theorem readUnsigned_digit (negative : Bool) (hc : c ≠ '0') (hd : c.isDigit = true) (rest : Text) :
    readUnsigned negative (c :: rest) =
      afterDigits negative (takeDigits (digitValue c) 0 rest).1 (takeDigits (digitValue c) 0 rest).2.2 := by
  simp only [readUnsigned, if_neg hc, if_pos hd, afterDigits]
  rcases (takeDigits (digitValue c) 0 rest).2.2 with _ | ⟨d, more⟩ <;> rfl

theorem readUnsigned_of_not_digit (negative : Bool) (hd : c.isDigit = false) (rest : Text) :
    readUnsigned negative (c :: rest) = none := by
  have hc : c ≠ '0' := by
    rintro rfl
    cases hd
  simp [readUnsigned, hc, hd]

theorem head?_append_isDigit (h : EndsValue rest) (t : Text) :
    (t ++ rest).head?.any Char.isDigit = t.head?.any Char.isDigit := by
  rcases t with _ | ⟨c, t⟩
  · obtain rfl | ⟨c, more, rfl, hc, -⟩ := h.cases
    · rfl
    · exact hc
  · rfl

theorem numberReader_afterDigits (negative : Bool) {value : Nat} (h : value < twoTo 64) :
    NumberReader (afterDigits negative value) where
  append t rest hrest := by
    simp only [afterDigits, head?_append_isDigit hrest]
    split
    · exact (numberReader_readLong negative value).append t rest hrest
    · exact (numberReader_readAfterWhole negative h).append t rest hrest
  suffix t j more hread := by
    unfold afterDigits at hread
    split at hread
    · exact (numberReader_readLong negative value).suffix t j more hread
    · exact (numberReader_readAfterWhole negative h).suffix t j more hread
  isNumber t j more hread := by
    unfold afterDigits at hread
    split at hread
    · exact (numberReader_readLong negative value).isNumber t j more hread
    · exact (numberReader_readAfterWhole negative h).isNumber t j more hread

theorem takeDigits_digitValue_lt (h : c.isDigit = true) (t : Text) : (takeDigits (digitValue c) 0 t).1 < twoTo 64 :=
  takeDigits_lt (Nat.lt_trans (digitValue_lt h) (by decide)) 0 t

theorem exists_of_readUnsigned {j : Json} {more : Text} (h : readUnsigned negative t = some (j, more)) :
    ∃ read u, NumberReader read ∧ u <:+ t ∧ read u = some (j, more) := by
  rcases t with _ | ⟨c, t⟩
  · cases h
  by_cases hc : c = '0'
  · subst hc
    rw [readUnsigned_zero] at h
    split at h
    · cases h
    · exact ⟨_, t, numberReader_readAfterWhole negative (by decide), List.suffix_cons '0' t, h⟩
  · cases hd : c.isDigit with
    | false => rw [readUnsigned_of_not_digit negative hd] at h; cases h
    | true =>
      rw [readUnsigned_digit negative hc hd] at h
      exact ⟨_, _, numberReader_afterDigits negative (takeDigits_digitValue_lt hd t),
        (takeDigits_suffix ..).trans (List.suffix_cons c t), h⟩

/-- **Numbers are read** up to the end of their value. -/
theorem numberReader_readUnsigned (negative : Bool) : NumberReader (readUnsigned negative) where
  append t rest hrest := by
    rcases t with _ | ⟨c, t⟩
    · obtain rfl | ⟨c, more, rfl, hc, -⟩ := hrest.cases
      · rfl
      · exact readUnsigned_of_not_digit negative hc more
    · rw [List.cons_append]
      by_cases hc : c = '0'
      · subst hc
        rw [readUnsigned_zero, readUnsigned_zero, head?_append_isDigit hrest]
        split
        · rfl
        · exact (numberReader_readAfterWhole negative (by decide)).append t rest hrest
      · cases hd : c.isDigit with
        | false => rw [readUnsigned_of_not_digit negative hd, readUnsigned_of_not_digit negative hd]; rfl
        | true =>
          rw [readUnsigned_digit negative hc hd, readUnsigned_digit negative hc hd, takeDigits_append hrest]
          exact (numberReader_afterDigits negative (takeDigits_digitValue_lt hd t)).append _ rest hrest
  suffix t j more h := by
    obtain ⟨read, u, hread, hu, h⟩ := exists_of_readUnsigned h
    exact (hread.suffix u j more h).trans hu
  isNumber t j more h := by
    obtain ⟨read, u, hread, -, h⟩ := exists_of_readUnsigned h
    exact hread.isNumber u j more h

/-! ## Whole numbers from their text -/

theorem readAfterWhole_of_ends (h : EndsValue rest) (negative : Bool) (significand : Nat) :
    readAfterWhole negative significand rest = wholeNumber negative significand rest := by
  obtain rfl | ⟨c, more, rfl, -, hdot, he, hE, -⟩ := h.cases
  · rfl
  · rw [readAfterWhole_eq]
    simp [branch, hdot, he, hE]

theorem readUnsigned_natText (h : EndsValue rest) (negative : Bool) {n : Nat} (hn : n < twoTo 64) :
    readUnsigned negative (natText n ++ rest) = wholeNumber negative n rest := by
  have hhead : rest.head?.any Char.isDigit = false := head?_append_isDigit h []
  obtain ⟨d, digits, htext, hd, hzero, hall, hvalue⟩ := natText_eq n
  rw [htext, List.cons_append]
  by_cases h0 : d = 0
  · subst h0
    obtain ⟨rfl, rfl⟩ := hzero rfl
    have hchar : digitChar 0 = '0' := by decide
    rw [hchar, readUnsigned_zero, List.nil_append, hhead]
    exact readAfterWhole_of_ends h negative 0
  · rw [readUnsigned_digit negative (digitChar_ne_zero d hd h0) (isDigit_digitChar d hd), digitValue_digitChar d hd,
      takeDigits_eq h hall (by rwa [hvalue]), hvalue]
    simp only [afterDigits, hhead]
    exact readAfterWhole_of_ends h negative n

end Classwright.Json
