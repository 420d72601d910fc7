import Mathlib.Data.List.TakeWhile
import Classwright.HeaderGuard
import Classwright.Proofs.Text.Search
import Classwright.Proofs.Text.Trim
/-!
# Reading directives

White space in a directive may go over the end of its line, so what is read on a line can depend on
the lines behind it. A line on which a directive and its first argument stand ends that: the lines in
front of it are read as if they were the last ones (`LineReader`). All readers of directives are of
this kind (`lineReader_macroAfter?`, `lineReader_endifLine?`, `lineReader_endifBlock?`).
-/
namespace Classwright.HeaderGuard

open Text

variable {x z r key : Text} {c : Char}

/-- The text begins with a directive and the start of an argument that does not close a comment. -/
def BeginsDirective (z : Text) : Prop :=
  ∃ word c more, z = '#' :: word ++ ' ' :: c :: more ∧ word.any isBlankChar = false ∧ '/' ∉ word ∧
    isBlankChar c = false ∧ c ≠ '*'

/-! ## Parts of a directive in front of a line feed -/

theorem stripStart?_append_newline (hk : '\n' ∉ key) (x z : Text) :
    (x ++ '\n' :: z).stripStart? key = (x.stripStart? key).map (· ++ '\n' :: z) := by
  cases h : x.stripStart? key with
  | none => rw [Option.map_none, stripStart?_eq_none_iff, isPrefix_append_cons_iff hk, ← stripStart?_eq_none_iff, h]
  | some r => rw [Option.map_some, stripStart?_eq_some_iff, stripStart?_eq_some_iff.1 h, List.append_assoc]

theorem trimStart_append_of_blank (h : x.isBlank = true) (y : Text) : trimStart (x ++ y) = y.trimStart :=
  List.dropWhile_append_of_pos (List.all_eq_true.1 h)

theorem trimStart_append_of_not_blank (h : x.isBlank = false) (y : Text) : trimStart (x ++ y) = x.trimStart ++ y := by
  have hne : (x.dropWhile isBlankChar).isEmpty = false := by
    rw [List.isEmpty_eq_false_iff, ne_eq, List.dropWhile_eq_nil_iff]
    intro hall
    rw [isBlank, List.all_eq_true.2 hall] at h
    cases h
  rw [trimStart, List.dropWhile_append, hne]
  rfl

theorem trimStart_of_blank (h : x.isBlank = true) : x.trimStart = [] := by
  have := trimStart_append_of_blank h []
  rwa [List.append_nil] at this

/-- White space goes on behind the line feed, or ends in front of it. -/
theorem afterBlanks?_append_newline (x z : Text) : afterBlanks? (x ++ '\n' :: z) =
    if x.isBlank then some z.trimStart else (afterBlanks? x).map (· ++ '\n' :: z) := by
  have hbreak : trimStart ('\n' :: z) = z.trimStart := trimStart_append_of_blank (x := ['\n']) (by decide) z
  cases hx : x.isBlank with
  | true =>
    have hh : (x ++ '\n' :: z).head?.any isBlankChar = true := by
      cases x with
      | nil => rfl
      | cons c x => simpa using List.all_eq_true.1 hx c (by simp)
    rw [afterBlanks?, if_pos hh, if_pos rfl, trimStart_append_of_blank hx, hbreak]
  | false =>
    have hh : (x ++ '\n' :: z).head? = x.head? := by
      cases x with
      | nil => cases hx
      | cons c x => rfl
    rw [afterBlanks?, hh, afterBlanks?, trimStart_append_of_not_blank hx]
    split <;> rfl

theorem afterBlanks?_of_blank (h : r.isBlank = true) : afterBlanks? r = none ∨ afterBlanks? r = some [] := by
  rw [afterBlanks?, trimStart_of_blank h]
  split
  · exact Or.inr rfl
  · exact Or.inl rfl

theorem word?_append_newline (x z : Text) :
    word? (x ++ '\n' :: z) = (word? x).map fun (word, rest) => (word, rest ++ '\n' :: z) := by
  have hn : (!isBlankChar '\n') = false := by decide
  rw [word?, takeWhile_append_cons hn, dropWhile_append_cons hn, word?]
  simp only
  split <;> rfl

theorem word?_newline (z : Text) : word? ('\n' :: z) = none := word?_append_newline [] z

/-- The end of a line does not depend on what is behind it. -/
theorem endsLine_append_newline (x z : Text) : endsLine (x ++ '\n' :: z) = endsLine x := by
  unfold endsLine
  rw [dropWhile_append_cons (by decide)]
  cases x.dropWhile (fun c => c == ' ' || c == '\t') with
  | nil => simp [stripStart?]
  | cons d rest =>
    simp only [List.cons_append, stripStart?]
    by_cases hd : '\r' = d
    · rw [if_pos hd, if_pos hd]
      cases rest <;> rfl
    · rw [if_neg hd, if_neg hd]
      rfl

theorem endsLine_argument (hc : isBlankChar c = false) (more : Text) : endsLine (' ' :: c :: more) = false := by
  have ne : ∀ d, isBlankChar d = true → c ≠ d := fun d hd h => by rw [h, hd] at hc; cases hc
  have h1 := ne ' ' (by decide)
  have h2 := ne '\t' (by decide)
  have h3 := ne '\r' (by decide)
  have h4 := ne '\n' (by decide)
  simp [endsLine, stripStart?, h1, h2, h3.symm, h4]

/-! ## Readers -/

variable {α : Type} {read : Text → Option α}

/-- Nothing is read from an empty line, what is read on a line does not need the lines behind it, and
lines that begin with a directive add nothing to it. -/
structure LineReader (read : Text → Option α) : Prop where
  nil : read [] = none
  newline : ∀ z, read ('\n' :: z) = none
  none_of_append : ∀ x z, read (x ++ '\n' :: z) = none → read x = none
  append_of_none : ∀ x z, BeginsDirective z → read x = none → read (x ++ '\n' :: z) = none

/-- A reader that reads nothing from a directive either. -/
structure ArgumentReader (read : Text → Option α) : Prop extends LineReader read where
  directive : ∀ z, BeginsDirective z → read z = none

/-- What is read behind a keyword and white space. -/
def readAfter (key : Text) (read : Text → Option α) (t : Text) : Option α := do
  read (← afterBlanks? (← t.stripStart? key))

theorem BeginsDirective.trimStart (h : BeginsDirective z) : z.trimStart = z := by
  obtain ⟨word, c, more, rfl, -⟩ := h
  exact TightStart.trimStart ⟨'#', word ++ ' ' :: c :: more, rfl, by decide⟩

theorem BeginsDirective.stripStart?_eq_none (h : BeginsDirective z) (hc : c ≠ '#') (key : Text) :
    z.stripStart? (c :: key) = none := by
  obtain ⟨word, d, more, rfl, -⟩ := h
  simp [stripStart?, hc]

theorem readAfter_of_stripStart? (h : x.stripStart? key = some r) :
    readAfter key read x = (afterBlanks? r).bind read := by
  rw [readAfter, h]
  rfl

/-- What is read in front of a line feed: white space behind the keyword can go on behind it. -/
theorem readAfter_append_of_stripStart? (hk : '\n' ∉ key) (h : x.stripStart? key = some r) (z : Text) :
    readAfter key read (x ++ '\n' :: z) =
      if r.isBlank then read z.trimStart else (afterBlanks? r).bind fun rest => read (rest ++ '\n' :: z) := by
  rw [readAfter, stripStart?_append_newline hk, h, Option.map_some, Option.bind_eq_bind, Option.bind_some,
    afterBlanks?_append_newline]
  split
  · rfl
  · cases afterBlanks? r <;> rfl

theorem LineReader.readAfter (h : ArgumentReader read) (hk : '\n' ∉ key) (hne : key ≠ []) :
    LineReader (readAfter key read) where
  nil := by
    obtain ⟨c, key, rfl⟩ := List.exists_cons_of_ne_nil hne
    rfl
  newline z := by
    obtain ⟨c, key, rfl⟩ := List.exists_cons_of_ne_nil hne
    have hc : c ≠ '\n' := fun hc => hk (by simp [hc])
    simp [HeaderGuard.readAfter, stripStart?, hc]
  none_of_append x z hn := by
    cases hx : x.stripStart? key with
    | none => rw [HeaderGuard.readAfter, hx]; rfl
    | some r =>
      rw [readAfter_append_of_stripStart? hk hx] at hn
      rw [readAfter_of_stripStart? hx]
      cases hr : r.isBlank with
      | true =>
        rcases afterBlanks?_of_blank hr with hb | hb
        · rw [hb]
          rfl
        · rw [hb]
          exact h.nil
      | false =>
        rw [hr, if_neg (by simp)] at hn
        cases hb : afterBlanks? r with
        | none => rfl
        | some rest =>
          rw [hb] at hn
          exact h.none_of_append rest z hn
  append_of_none x z hz hn := by
    cases hx : x.stripStart? key with
    | none => rw [HeaderGuard.readAfter, stripStart?_append_newline hk, hx]; rfl
    | some r =>
      rw [readAfter_of_stripStart? hx] at hn
      rw [readAfter_append_of_stripStart? hk hx]
      split
      · -- the white space ends in front of the directive
        rw [hz.trimStart]
        exact h.directive z hz
      · cases hb : afterBlanks? r with
        | none => rfl
        | some rest =>
          rw [hb] at hn
          exact h.append_of_none rest z hz hn

theorem ArgumentReader.readAfter (h : ArgumentReader read) (hk : '\n' ∉ c :: key) (hc : c ≠ '#') :
    ArgumentReader (readAfter (c :: key) read) where
  toLineReader := .readAfter h hk (by simp)
  directive z hz := by
    rw [HeaderGuard.readAfter, hz.stripStart?_eq_none hc]
    rfl

/-! ## Macros and comments -/

/-- A macro up to the end of its line. -/
def macro? (t : Text) : Option Text := do
  let (name, rest) ← word? t
  if endsLine rest then some name else none

theorem macro?_append_newline (x z : Text) : macro? (x ++ '\n' :: z) = macro? x := by
  rw [macro?, word?_append_newline, macro?]
  cases word? x with
  | none => rfl
  | some found => simp only [Option.map_some, Option.bind_eq_bind, Option.bind_some, endsLine_append_newline]

/-- The word that a directive begins with, and what is behind it. -/
theorem BeginsDirective.word? (h : BeginsDirective z) : ∃ word c more,
    word? z = some ('#' :: word, ' ' :: c :: more) ∧ '/' ∉ '#' :: word ∧ isBlankChar c = false ∧ c ≠ '*' := by
  obtain ⟨word, c, more, rfl, hw, hslash, hc, hs⟩ := h
  have hp : ∀ d ∈ '#' :: word, (!isBlankChar d) = true := by
    rw [List.any_eq_false] at hw
    intro d hd
    rcases List.mem_cons.1 hd with rfl | hd
    · decide
    · simpa using hw d hd
  have hn : (!isBlankChar ' ') = false := by decide
  refine ⟨word, c, more, ?_, ?_, hc, hs⟩
  · rw [HeaderGuard.word?, takeWhile_append_cons hn, dropWhile_append_cons hn, List.takeWhile_eq_self_iff.2 hp,
      List.dropWhile_eq_nil_iff.2 hp]
    rfl
  · intro hm
    rcases List.mem_cons.1 hm with hm | hm
    · exact absurd hm (by decide)
    · exact hslash hm

theorem argumentReader_macro? : ArgumentReader macro? where
  nil := rfl
  newline z := by rw [macro?, word?_newline]; rfl
  none_of_append x z h := by rwa [macro?_append_newline] at h
  append_of_none x z _ h := by rwa [macro?_append_newline]
  directive z hz := by
    obtain ⟨word, c, more, hw, -, hc, -⟩ := hz.word?
    simp only [macro?, hw, Option.bind_eq_bind, Option.bind_some, endsLine_argument hc]
    rfl

theorem inWord_append_newline (word x z : Text) :
    blockMacro?.inWord word (x ++ '\n' :: z) = blockMacro?.inWord word x := by
  simp only [blockMacro?.inWord, endsLine_append_newline]

/-- Behind a blank rest of a line the white space goes on up to the next text. -/
theorem trimStart_append_newline (h : x.isBlank = true) (z : Text) : trimStart (x ++ '\n' :: z) = z.trimStart := by
  rw [trimStart_append_of_blank h]
  exact trimStart_append_of_blank (x := ['\n']) (by decide) z

theorem blockMacro?_append_newline (hz : BeginsDirective z) (x : Text) :
    blockMacro? (x ++ '\n' :: z) = blockMacro? x := by
  rw [blockMacro?, word?_append_newline, blockMacro?]
  cases word? x with
  | none => rfl
  | some found =>
    obtain ⟨word, rest⟩ := found
    simp only [Option.map_some, Option.bind_eq_bind, Option.bind_some, inWord_append_newline]
    cases hr : rest.isBlank with
    | true =>
      have hclose : z.stripStart? "*/" = none := hz.stripStart?_eq_none (by decide) ['/']
      rw [trimStart_append_newline hr, hz.trimStart, hclose, trimStart_of_blank hr]
      rfl
    | false =>
      rw [trimStart_append_of_not_blank hr, stripStart?_append_newline (by decide)]
      cases rest.trimStart.stripStart? "*/" with
      | none => rfl
      | some after => simp only [Option.map_some, endsLine_append_newline]

theorem blockMacro?_eq_none_of_append (h : blockMacro? (x ++ '\n' :: z) = none) : blockMacro? x = none := by
  rw [blockMacro?, word?_append_newline] at h
  rw [blockMacro?]
  cases hw : word? x with
  | none => rfl
  | some found =>
    obtain ⟨word, rest⟩ := found
    simp only [hw, Option.map_some, Option.bind_eq_bind, Option.bind_some, inWord_append_newline] at h ⊢
    cases hr : rest.isBlank with
    | true =>
      -- a closing mark behind the line can only give another macro, not take one away
      rw [trimStart_of_blank hr]
      split at h
      · split at h
        · cases h
        · exact h
      · exact h
    | false =>
      rw [trimStart_append_of_not_blank hr, stripStart?_append_newline (by decide)] at h
      cases hs : rest.trimStart.stripStart? "*/" with
      | none => simpa only [hs, Option.map_none] using h
      | some after => simpa only [hs, Option.map_some, endsLine_append_newline] using h

/-- No macro of a comment is read from a directive, which has no closing mark. -/
theorem BeginsDirective.blockMacro?_eq_none (h : BeginsDirective z) : blockMacro? z = none := by
  obtain ⟨word, c, more, hw, hslash, hc, hstar⟩ := h.word?
  have htrim : Text.trimStart (' ' :: c :: more) = c :: more := by
    have h1 := trimStart_append_of_blank (x := [' ']) (by decide) (c :: more)
    exact h1.trans (TightStart.trimStart ⟨c, more, rfl, hc⟩)
  have hclose : stripStart? (c :: more) "*/" = none := by simp [stripStart?, hstar.symm]
  have hend : stripEnd? ('#' :: word) "*/" = none := by
    rw [stripEnd?_eq_none_iff]
    exact fun hs => hslash (hs.subset (by decide))
  simp only [blockMacro?, hw, Option.bind_eq_bind, Option.bind_some, htrim, hclose, blockMacro?.inWord, hend,
    Option.bind_none]

theorem argumentReader_blockMacro? : ArgumentReader blockMacro? where
  nil := rfl
  newline z := by rw [blockMacro?, word?_newline]; rfl
  none_of_append _ _ h := blockMacro?_eq_none_of_append h
  append_of_none x z hz h := by rwa [blockMacro?_append_newline hz]
  directive _ hz := hz.blockMacro?_eq_none

/-! ## The readers of a guard -/

theorem macroAfter?_eq (key : Text) : macroAfter? key = readAfter key macro? := by
  funext t
  simp [macroAfter?, readAfter, macro?]

theorem endifLine?_eq : endifLine? = readAfter "#endif" (readAfter "//" macro?) := by
  funext t
  simp [endifLine?, readAfter, macro?]

theorem endifBlock?_eq : endifBlock? = readAfter "#endif" (readAfter "/*" blockMacro?) := by
  funext t
  simp [endifBlock?, readAfter]

theorem lineReader_macroAfter? (hk : '\n' ∉ key) (hne : key ≠ []) : LineReader (macroAfter? key) :=
  macroAfter?_eq key ▸ .readAfter argumentReader_macro? hk hne

theorem lineReader_endifLine? : LineReader endifLine? :=
  endifLine?_eq ▸ .readAfter (argumentReader_macro?.readAfter (by decide) (by decide)) (by decide) (by decide)

theorem lineReader_endifBlock? : LineReader endifBlock? :=
  endifBlock?_eq ▸ .readAfter (argumentReader_blockMacro?.readAfter (by decide) (by decide)) (by decide) (by decide)

end Classwright.HeaderGuard
