import Classwright.Proofs.Json.Canonical
import Classwright.Proofs.Json.Quoted
/-!
# Values that were written

A canonical value is read from its text (`read?_write`), as far as its doubles are: the text of a double
need not give the same double, since the reader rounds more than once.
-/
namespace Classwright

/-- The double of a number. -/
def Json.double? : Json → Option Double
  | .double d => some d
  | _ => none

theorem Json.double?_eq_some {j : Json} {d : Double} : j.double? = some d ↔ j = .double d := by
  cases j <;> simp [double?]

/-- The double is read from its text. -/
def Double.Survives (d : Double) : Prop := Json.read? d.text = some (.double d)

instance (d : Double) : Decidable d.Survives :=
  decidable_of_iff ((Json.read? d.text).bind Json.double? = some d) <| by
    simp only [Double.Survives, Option.bind_eq_some_iff, Json.double?_eq_some, exists_eq_right]

namespace Json

open Text

variable {rest t : Text} {fuel depth : Nat} {j : Json} {items : List Json} {fields : List (Text × Json)}

mutual
def doubles : Json → List Double
  | .double d => [d]
  | .arr items => doublesOfItems items
  | .obj fields => doublesOfFields fields
  | _ => []

def doublesOfItems : List Json → List Double
  | [] => []
  | j :: rest => doubles j ++ doublesOfItems rest

def doublesOfFields : List (Text × Json) → List Double
  | [] => []
  | (_, j) :: rest => doubles j ++ doublesOfFields rest
end

theorem mem_doublesOfItems {d : Double} : d ∈ doublesOfItems items ↔ ∃ j ∈ items, d ∈ doubles j := by
  induction items with
  | nil => simp [doublesOfItems]
  | cons j rest ih => simp [doublesOfItems, ih]

theorem mem_doublesOfFields {d : Double} : d ∈ doublesOfFields fields ↔ ∃ f ∈ fields, d ∈ doubles f.2 := by
  induction fields with
  | nil => simp [doublesOfFields]
  | cons f rest ih => simp [doublesOfFields, ih]

/-! ## Numbers -/

def readNumber : Text → Option (Json × Text) := branch (· == '-') (readUnsigned true) (readUnsigned false)

theorem numberReader_readNumber : NumberReader readNumber :=
  .branch (by simp [marks]) (numberReader_readUnsigned true) (numberReader_readUnsigned false)

/-- Characters that a number is made of. -/
def isNumeral (c : Char) : Bool := c.isDigit || marks.contains c

theorem isSpace_of_isNumeral {c : Char} (h : isNumeral c = true) : isSpace c = false := by
  by_contra hspace
  simp only [isSpace, Bool.not_eq_false, Bool.or_eq_true, beq_iff_eq] at hspace
  obtain ((rfl | rfl) | rfl) | rfl := hspace <;> cases h

theorem readValue_of_isNumeral {c : Char} (h : isNumeral c = true) (fuel depth : Nat) (t : Text) :
    readValue (fuel + 1) depth (c :: t) = readNumber (c :: t) := by
  have hskip : skipSpace (c :: t) = c :: t := List.dropWhile_cons_of_neg (by simp [isSpace_of_isNumeral h])
  have other : ∀ c' : Char, isNumeral c' = false → c ≠ c' := fun c' hc' heq => by
    rw [heq, hc'] at h
    cases h
  rw [readValue, hskip]
  by_cases hminus : c = '-'
  · subst hminus
    rfl
  · simp [readNumber, branch, hminus, other 'n' (by decide), other 't' (by decide), other 'f' (by decide),
      other '"' (by decide), other '[' (by decide), other '\x7b' (by decide)]

theorem digitChar_beq_minus : ∀ d < 10, (digitChar d == '-') = false := by decide

def AllNumerals (t : Text) : Prop := ∀ c ∈ t, isNumeral c = true

theorem AllNumerals.append {s : Text} (hs : AllNumerals s) (ht : AllNumerals t) : AllNumerals (s ++ t) :=
  List.forall_mem_append.2 ⟨hs, ht⟩

theorem AllNumerals.of_sublist {s : Text} (ht : AllNumerals t) (h : s.Sublist t) : AllNumerals s :=
  fun c hc => ht c (h.subset hc)

theorem allNumerals_replicate (n : Nat) : AllNumerals (List.replicate n '0') := fun c hc => by
  rw [List.eq_of_mem_replicate hc]
  decide

theorem allNumerals_natText (n : Nat) : AllNumerals (natText n) := by
  obtain ⟨d, digits, htext, hd, -, hall, -⟩ := natText_eq n
  rw [htext]
  refine List.forall_mem_cons.2 ⟨?_, fun c hc => ?_⟩
  · rw [isNumeral, isDigit_digitChar d hd]
    rfl
  · rw [isNumeral, List.all_eq_true.1 hall c hc]
    rfl

theorem allNumerals_intText (n : Int) : AllNumerals (intText n) := by
  cases n with
  | ofNat n => exact allNumerals_natText n
  | negSucc n => exact List.forall_mem_cons.2 ⟨by decide, allNumerals_natText (n + 1)⟩

theorem allNumerals_text (d : Double) : AllNumerals d.text := by
  have literal : ∀ t : Text, t.all isNumeral = true → AllNumerals t := fun t => List.all_eq_true.1
  have hsign : AllNumerals (if d.negative then "-" else "") := by
    split
    · exact literal _ (by decide)
    · exact literal _ rfl
  unfold Double.text
  generalize d.shortest = digits
  obtain ⟨n, k⟩ := digits
  have hdigits := allNumerals_natText n
  dsimp only
  split
  · exact hsign.append (literal _ (by decide))
  split
  · exact ((hsign.append hdigits).append (allNumerals_replicate _)).append (literal _ (by decide))
  split
  · exact ((hsign.append (hdigits.of_sublist (List.take_sublist ..))).append (literal _ (by decide))).append
      (hdigits.of_sublist (List.drop_sublist ..))
  split
  · exact ((hsign.append (literal _ (by decide))).append (allNumerals_replicate _)).append hdigits
  · have hfraction : AllNumerals (if (natText n).length ≤ 1 then [] else '.' :: (natText n).drop 1) := by
      split
      · exact literal [] rfl
      · exact List.forall_mem_cons.2 ⟨by decide, hdigits.of_sublist (List.drop_sublist ..)⟩
    have hmark : ∀ point : Int, AllNumerals (if 0 ≤ point then "+" else "") := fun point => by
      split
      · exact literal _ (by decide)
      · exact literal _ rfl
    exact ((((hsign.append (hdigits.of_sublist (List.take_sublist ..))).append hfraction).append
      (literal _ (by decide))).append (hmark _)).append (allNumerals_intText _)

theorem readNumber_intText (hrest : EndsValue rest) {n : Int} (low : -(twoTo 63 : Int) ≤ n) (high : n < twoTo 64) :
    readNumber (intText n ++ rest) = some (.int n, rest) := by
  cases n with
  | ofNat n =>
    obtain ⟨d, digits, htext, hd, -⟩ := natText_eq n
    have hminus : (digitChar d == '-') = false := digitChar_beq_minus d hd
    have hread := readUnsigned_natText hrest false (n := n) (by simpa using high)
    rw [intText]
    rw [htext] at hread ⊢
    rw [readNumber, List.cons_append, branch, hminus]
    exact hread
  | negSucc n =>
    have hlt : twoTo 63 < twoTo 64 := by decide
    have hread := readUnsigned_natText hrest true (n := n + 1) (by omega)
    rw [readNumber, intText, List.cons_append, branch, if_pos (by decide), hread, wholeNumber, if_neg (by decide),
      if_neg (by omega)]
    rfl

theorem readNumber_text {d : Double} (h : d.Survives) (hrest : EndsValue rest) :
    readNumber (d.text ++ rest) = some (.double d, rest) := by
  have hall := allNumerals_text d
  -- the text is read as a number, and it holds no space that could be left over
  have hread : readNumber d.text = some (.double d, []) := by
    unfold Double.Survives read? at h
    split at h
    · rename_i j more hread
      obtain ⟨hspace, rfl⟩ : (skipSpace more).isEmpty = true ∧ j = .double d := by simpa using h
      cases htext : d.text with
      | nil => rw [htext] at hread; cases hread
      | cons c t =>
        rw [htext] at hread hall
        rw [readValue_of_isNumeral (hall c List.mem_cons_self)] at hread
        have hmore := hall.of_sublist (numberReader_readNumber.suffix _ _ _ hread).sublist
        rw [hread]
        cases more with
        | nil => rfl
        | cons c' more =>
          rw [skipSpace, List.dropWhile_cons_of_neg
            (by simp [isSpace_of_isNumeral (hmore c' List.mem_cons_self)])] at hspace
          cases hspace
    · cases h
  rw [numberReader_readNumber.append _ _ hrest, hread]
  rfl

/-! ## Arrays and objects -/

theorem endsValue_comma (rest : Text) : EndsValue (',' :: rest) := Or.inr ⟨',', rest, rfl, by decide⟩

theorem endsValue_bracket (rest : Text) : EndsValue (']' :: rest) := Or.inr ⟨']', rest, rfl, by decide⟩

theorem endsValue_brace (rest : Text) : EndsValue ('\x7d' :: rest) := Or.inr ⟨'\x7d', rest, rfl, by decide⟩

theorem readItems_cons {more : Text} (hj : readValue fuel depth t = some (j, ',' :: more))
    (hitems : readItems fuel depth more = some (items, rest)) : readItems (fuel + 1) depth t = some (j :: items, rest) := by
  have hskip : skipSpace (',' :: more) = ',' :: more := rfl
  simp only [readItems, hj, hskip, hitems, Option.map_some]

theorem readItems_last (hj : readValue fuel depth t = some (j, ']' :: rest)) :
    readItems (fuel + 1) depth t = some ([j], rest) := by
  have hskip : skipSpace (']' :: rest) = ']' :: rest := rfl
  simp only [readItems, hj, hskip]

theorem readValue_arr (h : readItems fuel depth t = some (items, rest)) :
    readValue (fuel + 1) (depth + 1) ('[' :: t) = some (.arr items, rest) := by
  have hskip : skipSpace ('[' :: t) = '[' :: t := rfl
  -- no item begins with a closing bracket, so the array is not read as the empty one
  have hitem : ∀ more, skipSpace t ≠ ']' :: more := fun more heq => by
    obtain _ | _ | fuel := fuel
    · cases h
    · cases h
    · rw [readItems, readValue, heq] at h
      cases h
  rw [readValue, hskip]
  simp only [h, Option.map_some]

theorem readFields_cons {key more : Text} (hj : readValue fuel depth t = some (j, ',' :: more))
    (hfields : readFields fuel depth more = some (fields, rest)) :
    readFields (fuel + 1) depth (quoted key ++ ':' :: t) = some ((key, j) :: fields, rest) := by
  obtain ⟨inner, hquoted, hkey⟩ := readString_quoted key (':' :: t)
  have hquote : skipSpace ('"' :: inner) = '"' :: inner := rfl
  have hcolon : skipSpace (':' :: t) = ':' :: t := rfl
  have hcomma : skipSpace (',' :: more) = ',' :: more := rfl
  simp only [readFields, hquoted, hquote, hkey, hcolon, hj, hcomma, hfields, Option.map_some]

theorem readFields_last {key : Text} (hj : readValue fuel depth t = some (j, '\x7d' :: rest)) :
    readFields (fuel + 1) depth (quoted key ++ ':' :: t) = some ([(key, j)], rest) := by
  obtain ⟨inner, hquoted, hkey⟩ := readString_quoted key (':' :: t)
  have hquote : skipSpace ('"' :: inner) = '"' :: inner := rfl
  have hcolon : skipSpace (':' :: t) = ':' :: t := rfl
  have hbrace : skipSpace ('\x7d' :: rest) = '\x7d' :: rest := rfl
  simp only [readFields, hquoted, hquote, hkey, hcolon, hj, hbrace]

theorem readValue_obj (h : readFields fuel depth t = some (fields, rest)) :
    readValue (fuel + 1) (depth + 1) ('\x7b' :: t) = some (ofFields fields, rest) := by
  have hskip : skipSpace ('\x7b' :: t) = '\x7b' :: t := rfl
  -- each field begins with its key, so the object is not read as the empty one
  have hfield : ∀ more, skipSpace t ≠ '\x7d' :: more := fun more heq => by
    cases fuel with
    | zero => cases h
    | succ fuel =>
      rw [readFields, heq] at h
      cases h
  rw [readValue, hskip]
  simp only [h, Option.map_some]

/-! ## Reading what was written -/

/-- The value is read from its text, whatever follows. -/
def Rereads (depth : Nat) (j : Json) : Prop :=
  ∀ fuel rest, EndsValue rest → 2 * (write j).length < fuel → readValue fuel depth (write j ++ rest) = some (j, rest)

theorem readItems_writeItems (hne : items ≠ []) (h : ∀ j ∈ items, Rereads depth j)
    (hfuel : 2 * (writeItems items).length + 1 < fuel) :
    readItems fuel depth (writeItems items ++ ']' :: rest) = some (items, rest) := by
  induction items generalizing fuel with
  | nil => exact absurd rfl hne
  | cons j items ih =>
    obtain ⟨hj, hitems⟩ := List.forall_mem_cons.1 h
    obtain ⟨fuel, rfl⟩ := Nat.exists_eq_add_one_of_ne_zero (show fuel ≠ 0 by omega)
    cases items with
    | nil =>
      rw [writeItems] at hfuel ⊢
      exact readItems_last (hj fuel _ (endsValue_bracket rest) (by omega))
    | cons j' items =>
      have hwrite : writeItems (j :: j' :: items) = write j ++ ',' :: writeItems (j' :: items) := by rw [writeItems]; simp
      rw [hwrite, List.length_append, List.length_cons] at hfuel
      rw [hwrite, List.append_assoc, List.cons_append]
      exact readItems_cons (hj fuel _ (endsValue_comma _) (by omega)) (ih (by simp) hitems (by omega))

theorem readFields_writeFields (hne : fields ≠ []) (h : ∀ f ∈ fields, Rereads depth f.2)
    (hfuel : 2 * (writeFields fields).length + 1 < fuel) :
    readFields fuel depth (writeFields fields ++ '\x7d' :: rest) = some (fields, rest) := by
  induction fields generalizing fuel with
  | nil => exact absurd rfl hne
  | cons f fields ih =>
    obtain ⟨key, j⟩ := f
    obtain ⟨hj, hfields⟩ : Rereads depth j ∧ ∀ f ∈ fields, Rereads depth f.2 := List.forall_mem_cons.1 h
    obtain ⟨fuel, rfl⟩ := Nat.exists_eq_add_one_of_ne_zero (show fuel ≠ 0 by omega)
    cases fields with
    | nil =>
      have hwrite : writeFields [(key, j)] = quoted key ++ ':' :: write j := by rw [writeFields]
      rw [hwrite, List.length_append, List.length_cons] at hfuel
      rw [hwrite, List.append_assoc, List.cons_append]
      exact readFields_last (hj fuel _ (endsValue_brace rest) (by omega))
    | cons f' fields =>
      have hwrite : writeFields ((key, j) :: f' :: fields) =
          quoted key ++ ':' :: (write j ++ ',' :: writeFields (f' :: fields)) := by simp [writeFields]
      rw [hwrite, List.length_append, List.length_cons, List.length_append, List.length_cons] at hfuel
      rw [hwrite, List.append_assoc, List.cons_append, List.append_assoc, List.cons_append]
      exact readFields_cons (hj fuel _ (endsValue_comma _) (by omega)) (ih (by simp) hfields (by omega))

theorem Rereads.of_succ (h : ∀ fuel rest, EndsValue rest → 2 * (write j).length ≤ fuel →
    readValue (fuel + 1) depth (write j ++ rest) = some (j, rest)) : Rereads depth j := by
  intro fuel rest hrest hfuel
  obtain ⟨fuel, rfl⟩ := Nat.exists_eq_add_one_of_ne_zero (show fuel ≠ 0 by omega)
  exact h fuel rest hrest (by omega)

theorem rereads_of_readNumber (hall : AllNumerals (write j))
    (h : ∀ rest, EndsValue rest → readNumber (write j ++ rest) = some (j, rest)) : Rereads depth j := by
  refine .of_succ fun fuel rest hrest _ => ?_
  have hread := h rest hrest
  cases hwrite : write j with
  | nil =>
    -- nothing is no number
    have := h [] (Or.inl rfl)
    rw [hwrite] at this
    cases this
  | cons c t =>
    rw [hwrite, List.cons_append] at hread
    rw [hwrite] at hall
    rw [List.cons_append, readValue_of_isNumeral (hall c List.mem_cons_self), hread]

theorem rereads_str (t : Text) : Rereads depth (.str t) := by
  refine .of_succ fun fuel rest _ _ => ?_
  obtain ⟨inner, hquoted, hread⟩ := readString_quoted t rest
  have hskip : skipSpace ('"' :: inner) = '"' :: inner := rfl
  rw [write, hquoted, readValue, hskip]
  simp only [hread, Option.map_some]

theorem rereads_arr (h : ∀ j ∈ items, Rereads depth j) : Rereads (depth + 1) (.arr items) := by
  refine .of_succ fun fuel rest _ hfuel => ?_
  by_cases hne : items = []
  · subst hne
    rfl
  · have hwrite : write (.arr items) ++ rest = '[' :: (writeItems items ++ ']' :: rest) := by simp [write]
    rw [hwrite]
    refine readValue_arr (readItems_writeItems hne h ?_)
    simp only [write, List.length_append, List.length_cons] at hfuel
    omega

theorem rereads_obj (hsorted : Sorted fields) (h : ∀ f ∈ fields, Rereads depth f.2) : Rereads (depth + 1) (.obj fields) := by
  refine .of_succ fun fuel rest _ hfuel => ?_
  by_cases hne : fields = []
  · subst hne
    rfl
  · have hwrite : write (.obj fields) ++ rest = '\x7b' :: (writeFields fields ++ '\x7d' :: rest) := by simp [write]
    rw [hwrite, ← ofFields_of_sorted hsorted]
    refine readValue_obj (readFields_writeFields hne h ?_)
    simp only [write, List.length_append, List.length_cons] at hfuel
    omega

theorem rereads (h : Canonical depth j) (hdoubles : ∀ d ∈ j.doubles, d.Survives) : Rereads depth j := by
  induction h with
  | null => exact .of_succ fun _ _ _ _ => rfl
  | bool b =>
    cases b with
    | true => exact .of_succ fun _ _ _ _ => rfl
    | false => exact .of_succ fun _ _ _ _ => rfl
  | @int depth n low high =>
    refine rereads_of_readNumber ?_ fun rest hrest => ?_
    · rw [write]
      exact allNumerals_intText n
    · rw [write]
      exact readNumber_intText hrest low high
  | double d =>
    have hd : d.Survives := hdoubles d (by rw [doubles]; exact List.mem_singleton_self d)
    refine rereads_of_readNumber ?_ fun rest hrest => ?_
    · rw [write]
      exact allNumerals_text d
    · rw [write]
      exact readNumber_text hd hrest
  | str t => exact rereads_str t
  | arr _ ih => exact rereads_arr fun j hj => ih j hj fun d hd => hdoubles d (mem_doublesOfItems.2 ⟨j, hj, hd⟩)
  | obj sorted _ ih =>
    exact rereads_obj sorted fun f hf => ih f hf fun d hd => hdoubles d (mem_doublesOfFields.2 ⟨f, hf, hd⟩)

/-- **A canonical value is read** from its text, if its doubles are read from theirs. -/
theorem read?_write (h : Canonical maxDepth j) (hdoubles : ∀ d ∈ j.doubles, d.Survives) : read? (write j) = some j := by
  have hread := rereads h hdoubles (2 * (write j).length + 2) [] (Or.inl rfl) (by omega)
  rw [List.append_nil] at hread
  rw [read?, hread]
  rfl

end Json
end Classwright
