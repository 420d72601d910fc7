import Mathlib.Tactic.Common
import Classwright.BuildLog.Location
import Classwright.Proofs.Text.Search
/-!
# Reading locations

A location is the shortest start of a message behind which a place is written. What is written behind
the place does not matter for that, as long as it does not go on with a digit: a location is found at
the start of a message when there is no earlier mark of a place in it (`ofMessage?_eq_some_iff`). So a
location is at the start of its own text too (`At.text`).
-/
namespace Classwright.Location

variable {t p l d tail w : Text} {loc : Location}

/-! ## Digits -/

/-- A run of digits. -/
def Digits (t : Text) : Prop := t ≠ [] ∧ ∀ c ∈ t, isDecimalDigit c = true

/-- The text does not go on with a digit. -/
def EndsDigits (t : Text) : Prop := ∀ c, t.head? = some c → isDecimalDigit c = false

@[simp] theorem endsDigits_nil : EndsDigits [] := by simp [EndsDigits]

@[simp] theorem endsDigits_cons {c : Char} : EndsDigits (c :: t) ↔ isDecimalDigit c = false := by simp [EndsDigits]

theorem notMem_of_digits {c : Char} (h : Digits t) (hc : isDecimalDigit c = false) : c ∉ t := by
  intro hm
  rw [h.2 c hm] at hc
  cases hc

theorem digits_takeWhile (h : t.takeWhile isDecimalDigit ≠ []) : Digits (t.takeWhile isDecimalDigit) := by
  refine ⟨h, ?_⟩
  intro c hc
  exact List.all_eq_true.1 List.all_takeWhile c hc

theorem endsDigits_dropWhile (t : Text) : EndsDigits (t.dropWhile isDecimalDigit) := by
  intro c hc
  have hnot := List.head?_dropWhile_not isDecimalDigit t
  rw [hc] at hnot
  simpa using hnot

theorem digits?_append (hl : Digits l) (ht : EndsDigits t) : digits? (l ++ t) = some (l, t) := by
  have htake : (l ++ t).takeWhile isDecimalDigit = l := by
    rw [List.takeWhile_append_of_pos hl.2]
    cases t with
    | nil => simp
    | cons c t => simp [endsDigits_cons.1 ht]
  have hdrop : (l ++ t).dropWhile isDecimalDigit = t := by
    rw [List.dropWhile_append_of_pos hl.2]
    cases t with
    | nil => rfl
    | cons c t => simp [endsDigits_cons.1 ht]
  simp [digits?, htake, hdrop, hl.1]

theorem digits?_eq_some_iff : digits? t = some (l, tail) ↔ Digits l ∧ t = l ++ tail ∧ EndsDigits tail := by
  constructor
  · intro h
    simp only [digits?] at h
    split at h
    · cases h
    · rename_i hne
      simp only [Option.some.injEq, Prod.mk.injEq] at h
      obtain ⟨rfl, rfl⟩ := h
      exact ⟨digits_takeWhile (by simpa using hne), List.takeWhile_append_dropWhile.symm, endsDigits_dropWhile t⟩
  · rintro ⟨hl, rfl, htail⟩
    exact digits?_append hl htail

/-! ## Marks of a place -/

/-- A colon, digits, a colon and a digit. -/
def ColonMark (w : Text) : Prop := ∃ l c, Digits l ∧ isDecimalDigit c = true ∧ w = ':' :: l ++ [':', c]

def BracketMark (w : Text) : Prop := ∃ l, Digits l ∧ w = '(' :: l ++ [')']

/-- A mark of the kind is somewhere in the text. -/
def Has (mark : Text → Prop) (t : Text) : Prop := ∃ w, mark w ∧ w <:+: t

theorem Has.mono {mark : Text → Prop} {s t : Text} (h : Has mark s) (hst : s <:+: t) : Has mark t := by
  obtain ⟨w, hw, hi⟩ := h
  exact ⟨w, hw, hi.trans hst⟩

/-- A character that no mark has stands between marks. -/
theorem has_append_cons_iff {mark : Text → Prop} {c : Char} (h : ∀ w, mark w → c ∉ w) (s t : Text) :
    Has mark (s ++ c :: t) ↔ Has mark s ∨ Has mark t := by
  constructor
  · rintro ⟨w, hw, hi⟩
    rcases (Text.isInfix_append_cons_iff (h w hw)).1 hi with hi | hi
    · exact Or.inl ⟨w, hw, hi⟩
    · exact Or.inr ⟨w, hw, hi⟩
  · rintro (hs | ht)
    · exact hs.mono (List.prefix_append ..).isInfix
    · exact ht.mono ((List.suffix_cons ..).trans (List.suffix_append ..)).isInfix

theorem notMem_colonMark {c : Char} (hdigit : isDecimalDigit c = false) (hc : c ≠ ':') : ∀ w, ColonMark w → c ∉ w := by
  rintro w ⟨l, x, hl, hx, rfl⟩ hm
  simp only [List.mem_cons, List.cons_append, List.mem_append, List.not_mem_nil, or_false] at hm
  rcases hm with rfl | hm | rfl | rfl
  · exact hc rfl
  · exact notMem_of_digits hl hdigit hm
  · exact hc rfl
  · rw [hdigit] at hx
    cases hx

theorem notMem_bracketMark {c : Char} (hdigit : isDecimalDigit c = false) (ho : c ≠ '(') (hc : c ≠ ')') :
    ∀ w, BracketMark w → c ∉ w := by
  rintro w ⟨l, hl, rfl⟩ hm
  simp only [List.mem_cons, List.cons_append, List.mem_append, List.not_mem_nil, or_false] at hm
  rcases hm with rfl | hm | rfl
  · exact ho rfl
  · exact notMem_of_digits hl hdigit hm
  · exact hc rfl

theorem colonPlace?_eq_some_iff : colonPlace? t = some (l, d) ↔
    Digits l ∧ Digits d ∧ ∃ tail, t = ':' :: l ++ ':' :: d ++ tail ∧ EndsDigits tail := by
  simp only [colonPlace?, Option.bind_eq_bind, Option.bind_eq_some_iff, Text.stripStart?_eq_some_iff, digits?_eq_some_iff,
    Option.pure_def, Option.some.injEq, Prod.mk.injEq, Prod.exists]
  constructor
  · rintro ⟨_, rfl, l, _, ⟨hl, rfl, -⟩, _, rfl, d, tail, ⟨hd, rfl, htail⟩, rfl, rfl⟩
    exact ⟨hl, hd, tail, by simp, htail⟩
  · rintro ⟨hl, hd, tail, rfl, htail⟩
    have hends : EndsDigits (':' :: d ++ tail) := endsDigits_cons.2 (by decide)
    exact ⟨l ++ ':' :: d ++ tail, by simp, l, ':' :: d ++ tail, ⟨hl, by simp, hends⟩, d ++ tail, by simp, d, tail,
      ⟨hd, rfl, htail⟩, rfl, rfl⟩

theorem bracketPlace?_eq_some_iff : bracketPlace? t = some l ↔ Digits l ∧ ∃ tail, t = '(' :: l ++ ')' :: tail := by
  constructor
  · intro h
    simp only [bracketPlace?, Option.bind_eq_bind, Option.bind_eq_some_iff, Text.stripStart?_eq_some_iff, digits?_eq_some_iff,
      Prod.exists] at h
    obtain ⟨_, rfl, l', rest, ⟨hl, rfl, -⟩, h⟩ := h
    split at h
    · rename_i hclose
      obtain ⟨tail, rfl⟩ := Text.startsWith_iff.1 hclose
      obtain rfl := Option.some.inj h
      exact ⟨hl, tail, by simp⟩
    · cases h
  · rintro ⟨hl, tail, rfl⟩
    have hclose : isDecimalDigit ')' = false := by decide
    have hopen : Text.stripStart? ('(' :: l ++ ')' :: tail) "(" = some (l ++ ')' :: tail) := Text.stripStart?_append "(" _
    have hstarts : Text.startsWith (')' :: tail) ")" = true := Text.startsWith_iff.2 ⟨tail, rfl⟩
    rw [bracketPlace?, hopen]
    simp only [Option.bind_eq_bind, Option.bind_some, digits?_append hl (endsDigits_cons.2 hclose), hstarts, if_true]

/-! ## The first mark -/

/-- Something is read just where a mark of the kind begins. -/
def Reads {α : Type} (mark : Text → Prop) (read : Text → Option α) : Prop :=
  ∀ t, read t = none ↔ ∀ w, mark w → ¬ w <+: t

theorem reads_colonPlace? : Reads ColonMark colonPlace? := by
  intro t
  rw [Option.eq_none_iff_forall_not_mem]
  constructor
  · rintro h w ⟨l, c, hl, hc, rfl⟩ ⟨rest, rfl⟩
    -- the digits go on behind the mark
    have hsplit : (c :: rest).takeWhile isDecimalDigit ++ (c :: rest).dropWhile isDecimalDigit = c :: rest :=
      List.takeWhile_append_dropWhile
    have hd : Digits ((c :: rest).takeWhile isDecimalDigit) := digits_takeWhile (by simp [hc])
    exact h (l, _) (colonPlace?_eq_some_iff.2 ⟨hl, hd, _, by simp [hsplit], endsDigits_dropWhile (c :: rest)⟩)
  · rintro h ⟨l, d⟩ hread
    obtain ⟨hl, hd, tail, rfl, -⟩ := colonPlace?_eq_some_iff.1 hread
    obtain ⟨c, d, rfl⟩ := List.exists_cons_of_ne_nil hd.1
    exact h _ ⟨l, c, hl, hd.2 c (by simp), rfl⟩ ⟨d ++ tail, by simp⟩

theorem reads_bracketPlace? : Reads BracketMark bracketPlace? := by
  intro t
  rw [Option.eq_none_iff_forall_not_mem]
  constructor
  · rintro h w ⟨l, hl, rfl⟩ ⟨rest, rfl⟩
    exact h l (bracketPlace?_eq_some_iff.2 ⟨hl, rest, by simp⟩)
  · rintro h l hread
    obtain ⟨hl, tail, rfl⟩ := bracketPlace?_eq_some_iff.1 hread
    exact h _ ⟨l, hl, rfl⟩ ⟨tail, by simp⟩

section

variable {α : Type} {read : Text → Option α} {mark : Text → Prop} {a : α}

theorem shortest?_eq_none_iff (hread : Reads mark read) (h : '\n' ∉ t) : shortest? read t = none ↔ ¬ Has mark t := by
  have hsplit : ∀ t, (¬ Has mark t) ↔ ∀ w, mark w → ¬ w <:+: t := fun t => by simp [Has]
  induction t with
  | nil =>
    rw [shortest?, Option.map_eq_none_iff, hread, hsplit]
    simp only [List.prefix_nil, List.infix_nil]
  | cons c t ih =>
    simp only [List.mem_cons, not_or] at h
    rw [hsplit, shortest?]
    simp only [List.infix_cons_iff, not_or]
    cases hc : read (c :: t) with
    | some a =>
      simp only [reduceCtorEq, false_iff]
      intro hnone
      rw [(hread _).2 fun w hw => (hnone w hw).1] at hc
      cases hc
    | none =>
      rw [hread] at hc
      rw [hsplit] at ih
      simp only [if_neg (Ne.symm h.1), Option.map_eq_none_iff, ih h.2]
      exact ⟨fun hrest w hw => ⟨hc w hw, hrest w hw⟩, fun hrest w hw => (hrest w hw).2⟩

/-- Nothing is read before the end of the start, also where it and the rest belong together. -/
theorem shortest?_eq_some_iff : shortest? read t = some (p, a) ↔ '\n' ∉ p ∧
    ∃ rest, t = p ++ rest ∧ read rest = some a ∧ ∀ r, r <:+ p → r ≠ [] → read (r ++ rest) = none := by
  induction t generalizing p with
  | nil =>
    simp only [shortest?, Option.map_eq_some_iff, Prod.mk.injEq]
    constructor
    · rintro ⟨a', h, rfl, rfl⟩
      exact ⟨by simp, [], rfl, h, by simp⟩
    · rintro ⟨-, rest, ht, h, -⟩
      obtain ⟨rfl, rfl⟩ := List.append_eq_nil_iff.1 ht.symm
      exact ⟨a, h, rfl, rfl⟩
  | cons c t ih =>
    rw [shortest?]
    cases hc : read (c :: t) with
    | some a' =>
      simp only [Option.some.injEq, Prod.mk.injEq]
      constructor
      · rintro ⟨rfl, rfl⟩
        exact ⟨by simp, c :: t, rfl, hc, by simp⟩
      · rintro ⟨-, rest, ht, h, hnone⟩
        cases p with
        | nil =>
          rw [List.nil_append] at ht
          rw [← ht, hc] at h
          exact ⟨rfl, Option.some.inj h⟩
        | cons x p =>
          have := hnone _ List.suffix_rfl (by simp)
          rw [← ht, hc] at this
          cases this
    | none =>
      by_cases hn : c = '\n'
      · simp only [if_pos hn, reduceCtorEq, false_iff]
        rintro ⟨hp, rest, ht, h, -⟩
        cases p with
        | nil =>
          rw [List.nil_append] at ht
          rw [← ht, hc] at h
          cases h
        | cons x p =>
          obtain ⟨rfl, -⟩ := List.cons.inj ht
          simp [hn] at hp
      · simp only [if_neg hn, Option.map_eq_some_iff, Prod.exists, Prod.mk.injEq]
        constructor
        · rintro ⟨p', a', h, rfl, rfl⟩
          obtain ⟨hp, rest, rfl, hrest, hnone⟩ := ih.1 h
          refine ⟨by simp [hp, Ne.symm hn], rest, rfl, hrest, ?_⟩
          intro r hr hne
          rcases List.suffix_cons_iff.1 hr with rfl | hr
          · exact hc
          · exact hnone r hr hne
        · rintro ⟨hp, rest, ht, h, hnone⟩
          cases p with
          | nil =>
            rw [List.nil_append] at ht
            rw [← ht, hc] at h
            cases h
          | cons x p =>
            obtain ⟨rfl, rfl⟩ := List.cons.inj ht
            simp only [List.mem_cons, not_or] at hp
            exact ⟨p, a, ih.2 ⟨hp.2, rest, rfl, h, fun r hr => hnone r (hr.trans (List.suffix_cons ..))⟩, rfl, rfl⟩

end

/-- A mark that begins in a start of the text ends in front of the last digits of the place behind it. -/
theorem colonMark_isPrefix_iff {r : Text} (hw : ColonMark w) (hr : r ≠ []) (hl : Digits l) (rest : Text) :
    w <+: r ++ (':' :: l ++ rest) ↔ w <+: r ++ ':' :: l := by
  have hlonger : r ++ ':' :: l <+: r ++ (':' :: l ++ rest) := by simp
  refine ⟨fun h => ?_, fun h => h.trans hlonger⟩
  rcases List.prefix_or_prefix_of_prefix h hlonger with hp | ⟨more, hmore⟩
  · exact hp
  · -- the second colon of the mark is the one in front of the digits, and one digit follows
    obtain ⟨l', c, hl', hc, rfl⟩ := hw
    obtain ⟨x, r, rfl⟩ := List.exists_cons_of_ne_nil hr
    have hcolon : isDecimalDigit ':' = false := by decide
    have htail : r ++ ':' :: (l ++ more) = l' ++ ':' :: [c] := by simpa using (List.cons.inj hmore).2
    have hsecond : Text.cut? (r ++ ':' :: (l ++ more)) [':'] = some (l', [c]) := by
      rw [htail]
      exact Text.cut?_char (notMem_of_digits hl' hcolon) [c]
    obtain ⟨y, l, rfl⟩ := List.exists_cons_of_ne_nil hl.1
    by_cases hm : ':' ∈ r
    · obtain ⟨r', r'', rfl, hr'⟩ := List.eq_append_cons_of_mem hm
      rw [List.append_assoc, List.cons_append, Text.cut?_char hr'] at hsecond
      have := congrArg (fun cut => (cut.map (·.2.length)).getD 0) hsecond
      simp only [Option.map_some, Option.getD_some, List.length_append, List.length_cons, List.length_nil] at this
      omega
    · rw [Text.cut?_char hm] at hsecond
      obtain ⟨-, hbehind⟩ := Prod.mk.inj (Option.some.inj hsecond)
      obtain ⟨-, hnil⟩ := List.cons.inj hbehind
      rw [(List.append_eq_nil_iff.1 hnil).2, List.append_nil] at hmore
      rw [hmore]

theorem bracketMark_isPrefix_iff {r : Text} (hw : BracketMark w) (hr : r ≠ []) (rest : Text) :
    w <+: r ++ '(' :: rest ↔ w <+: r := by
  obtain ⟨l, hl, rfl⟩ := hw
  obtain ⟨x, r, rfl⟩ := List.exists_cons_of_ne_nil hr
  have hopen : '(' ∉ l ++ [')'] := by
    have := notMem_of_digits (c := '(') hl (by decide)
    simpa using this
  rw [List.cons_append, List.cons_append, List.cons_prefix_cons, List.cons_prefix_cons, Text.isPrefix_append_cons_iff hopen]

/-- A mark in a start of a text with what is behind it begins in the start, unless it is behind it. -/
theorem has_append_iff {mark : Text → Prop} {s : Text} (hs : ¬ Has mark s) (p : Text) :
    Has mark (p ++ s) ↔ ∃ w r, mark w ∧ r <:+ p ∧ r ≠ [] ∧ w <+: r ++ s := by
  constructor
  · rintro ⟨w, hw, a, b, hab⟩
    rw [List.append_assoc] at hab
    rcases List.append_eq_append_iff.1 hab with ⟨r, rfl, hr⟩ | ⟨x, rfl, hx⟩
    · by_cases hne : r = []
      · subst hne
        exact absurd ⟨w, hw, (List.prefix_iff_exists_append_eq.2 ⟨b, hr⟩).isInfix⟩ hs
      · exact ⟨w, r, hw, List.suffix_append .., hne, b, hr⟩
    · exact absurd ⟨w, hw, x, b, by simpa using hx.symm⟩ hs
  · rintro ⟨w, r, hw, ⟨q, rfl⟩, -, b, hb⟩
    exact ⟨w, hw, q, b, by rw [List.append_assoc, hb, List.append_assoc]⟩

theorem not_has_colonMark_cons (hl : Digits l) : ¬ Has ColonMark (':' :: l) := by
  have hcolon : ':' ∉ l := notMem_of_digits hl (by decide)
  rintro ⟨w, ⟨l', c, -, -, rfl⟩, hi⟩
  rcases List.infix_cons_iff.1 hi with hp | hi
  · rw [List.cons_append, List.cons_prefix_cons] at hp
    exact hcolon (hp.2.subset (by simp))
  · exact hcolon (hi.subset (by simp))

theorem shortest?_colonPlace?_eq_some_iff : shortest? colonPlace? t = some (p, l, d) ↔
    '\n' ∉ p ∧ Digits l ∧ Digits d ∧ ¬ Has ColonMark (p ++ ':' :: l) ∧
      ∃ tail, t = p ++ ':' :: l ++ ':' :: d ++ tail ∧ EndsDigits tail := by
  rw [shortest?_eq_some_iff]
  constructor
  · rintro ⟨hp, rest, rfl, hread, hnone⟩
    obtain ⟨hl, hd, tail, rfl, htail⟩ := colonPlace?_eq_some_iff.1 hread
    refine ⟨hp, hl, hd, ?_, tail, by simp, htail⟩
    rw [has_append_iff (not_has_colonMark_cons hl)]
    rintro ⟨w, r, hw, hr, hne, hwr⟩
    refine (reads_colonPlace? _).1 (hnone r hr hne) w hw ?_
    rw [List.append_assoc]
    exact (colonMark_isPrefix_iff hw hne hl _).2 hwr
  · rintro ⟨hp, hl, hd, hfirst, tail, rfl, htail⟩
    refine ⟨hp, ':' :: l ++ ':' :: d ++ tail, by simp, colonPlace?_eq_some_iff.2 ⟨hl, hd, tail, rfl, htail⟩, ?_⟩
    intro r hr hne
    rw [reads_colonPlace?]
    intro w hw hwr
    rw [List.append_assoc, colonMark_isPrefix_iff hw hne hl] at hwr
    exact hfirst ((has_append_iff (not_has_colonMark_cons hl) p).2 ⟨w, r, hw, hr, hne, hwr⟩)

theorem shortest?_bracketPlace?_eq_some_iff : shortest? bracketPlace? t = some (p, l) ↔
    '\n' ∉ p ∧ Digits l ∧ ¬ Has BracketMark p ∧ ∃ tail, t = p ++ '(' :: l ++ ')' :: tail := by
  rw [shortest?_eq_some_iff]
  have hnil : ¬ Has BracketMark [] := by
    rintro ⟨w, ⟨l', -, rfl⟩, hi⟩
    cases List.infix_nil.1 hi
  constructor
  · rintro ⟨hp, rest, rfl, hread, hnone⟩
    obtain ⟨hl, tail, rfl⟩ := bracketPlace?_eq_some_iff.1 hread
    refine ⟨hp, hl, ?_, tail, by simp⟩
    intro hhas
    rw [← List.append_nil p, has_append_iff hnil] at hhas
    obtain ⟨w, r, hw, hr, hne, hwr⟩ := hhas
    rw [List.append_nil] at hwr
    exact (reads_bracketPlace? _).1 (hnone r hr hne) w hw ((bracketMark_isPrefix_iff hw hne _).2 hwr)
  · rintro ⟨hp, hl, hfirst, tail, rfl⟩
    refine ⟨hp, '(' :: l ++ ')' :: tail, by simp, bracketPlace?_eq_some_iff.2 ⟨hl, tail, rfl⟩, ?_⟩
    intro r hr hne
    rw [reads_bracketPlace?]
    intro w hw hwr
    rw [List.cons_append, bracketMark_isPrefix_iff hw hne] at hwr
    exact hfirst ⟨w, hw, hwr.isInfix.trans hr.isInfix⟩

/-! ## Messages -/

/-- The location is at the start of a message, in one of its two forms. -/
inductive At : Location → Text → Prop
  | colon {p l d tail : Text} {n k : Nat} (digits : Digits l ∧ Digits d) (numbers : number? l = some n ∧ number? d = some k)
    (line : '\n' ∉ p) (first : ¬ Has ColonMark (p ++ ':' :: l)) (ends : EndsDigits tail) :
    At ⟨p ++ ':' :: l ++ ':' :: d, p, n, k⟩ (p ++ ':' :: l ++ ':' :: d ++ tail)
  | bracket {p l tail : Text} {n : Nat} (digits : Digits l) (number : number? l = some n) (line : '\n' ∉ p)
    (colon : ¬ Has ColonMark (p ++ '(' :: l ++ ')' :: tail)) (first : ¬ Has BracketMark p) :
    At ⟨p ++ '(' :: l ++ [')'], p, n, 1⟩ (p ++ '(' :: l ++ ')' :: tail)

/-- **The location of a message** is the one at its start. -/
theorem ofMessage?_eq_some_iff (h : '\n' ∉ t) : ofMessage? t = some loc ↔ loc.At t := by
  unfold ofMessage?
  constructor
  · intro hloc
    cases hcolon : shortest? colonPlace? t with
    | some found =>
      obtain ⟨p, l, d⟩ := found
      obtain ⟨hp, hl, hd, hfirst, tail, rfl, htail⟩ := shortest?_colonPlace?_eq_some_iff.1 hcolon
      simp only [hcolon, Option.bind_eq_bind, Option.bind_eq_some_iff, Option.pure_def, Option.some.injEq] at hloc
      obtain ⟨n, hn, k, hk, rfl⟩ := hloc
      exact .colon ⟨hl, hd⟩ ⟨hn, hk⟩ hp hfirst htail
    | none =>
      simp only [hcolon, Option.bind_eq_bind, Option.bind_eq_some_iff, Option.pure_def, Option.some.injEq] at hloc
      obtain ⟨⟨p, l⟩, hbracket, n, hn, rfl⟩ := hloc
      obtain ⟨hp, hl, hfirst, tail, rfl⟩ := shortest?_bracketPlace?_eq_some_iff.1 hbracket
      exact .bracket hl hn hp ((shortest?_eq_none_iff reads_colonPlace? h).1 hcolon) hfirst
  · rintro (⟨⟨hl, hd⟩, ⟨hn, hk⟩, hp, hfirst, htail⟩ | ⟨hl, hn, hp, hcolon, hfirst⟩)
    · rw [shortest?_colonPlace?_eq_some_iff.2 ⟨hp, hl, hd, hfirst, _, rfl, htail⟩]
      simp only [hn, hk]
      rfl
    · rw [(shortest?_eq_none_iff reads_colonPlace? h).2 hcolon,
        shortest?_bracketPlace?_eq_some_iff.2 ⟨hp, hl, hfirst, _, rfl⟩]
      simp only [Option.bind_eq_bind, Option.bind_some, hn]
      rfl

/-- A location is at the start of its own text, and nothing else is in that text. -/
theorem At.text (h : loc.At t) : loc.At loc.text ∧ loc.text <+: t := by
  cases h with
  | colon digits numbers line first ends =>
    refine ⟨?_, List.prefix_append ..⟩
    have hends : EndsDigits [] := by simp
    have := At.colon digits numbers line first hends
    rwa [List.append_nil] at this
  | bracket digits number line colon first =>
    have hp : ∀ p l tail : Text, p ++ '(' :: l ++ [')'] <+: p ++ '(' :: l ++ ')' :: tail := fun p l tail => ⟨tail, by simp⟩
    refine ⟨At.bracket digits number line ?_ first, hp ..⟩
    intro hhas
    exact colon (hhas.mono (hp ..).isInfix)

end Classwright.Location
