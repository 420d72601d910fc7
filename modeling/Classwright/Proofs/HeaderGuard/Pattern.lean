import Classwright.Proofs.HeaderGuard.Directive
/-!
# The patterns of directives

What stands on a line with a directive, as a text in parts: a keyword, white space, a macro, and what
may follow it up to the end of the line. What a reader of directives reads matches its pattern up to
the end of a line, which need not be the line it began on (`Recognises`); from a single line it reads
what the pattern says (`Recognises.eq_some_iff`).
-/
namespace Classwright.HeaderGuard

open Text

variable {t x y key name : Text}

/-! ## Parts -/

/-- White space of at least one character. -/
def Gap (t : Text) : Prop := t ≠ [] ∧ t.isBlank = true

/-- A macro: characters that are no white space, at least one. -/
def Word (t : Text) : Prop := t ≠ [] ∧ ∀ c ∈ t, isBlankChar c = false

/-- What may stand behind a directive: blanks and tabs, and then at most one carriage return. -/
def Trail (t : Text) : Prop :=
  ∃ blanks ending, t = blanks ++ ending ∧ (∀ c ∈ blanks, c = ' ' ∨ c = '\t') ∧ (ending = [] ∨ ending = ['\r'])

/-- A line ends in front of the text. -/
def AtEnd (t : Text) : Prop := t = [] ∨ ∃ z, t = '\n' :: z

/-- A macro at the end of a line. -/
def Named (name t : Text) : Prop := Word name ∧ ∃ trail, t = name ++ trail ∧ Trail trail

/-- A macro and the mark that closes a comment at the end of a line. -/
def Boxed (name t : Text) : Prop :=
  Word name ∧ ∃ blanks trail, t = name ++ (blanks ++ ("*/".toList ++ trail)) ∧ blanks.isBlank = true ∧ Trail trail

/-- A keyword and white space, and then another pattern. -/
def Keyed (key : Text) (P : Text → Text → Prop) (name t : Text) : Prop :=
  ∃ gap rest, t = key ++ (gap ++ rest) ∧ Gap gap ∧ P name rest

/-- `#endif` with a macro in a block comment. -/
def BlockEnd : Text → Text → Prop := Keyed "#endif" (Keyed "/*" Boxed)

/-- `#endif` with a macro in a line comment. -/
def CommentEnd : Text → Text → Prop := Keyed "#endif" (Keyed "//" Named)

/-- `#endif` with nothing behind it. -/
def BareEnd (t : Text) : Prop := ∃ trail, t = "#endif".toList ++ trail ∧ Trail trail

/-! ## Reading the parts -/

theorem Word.tightStart (h : Word x) : TightStart x := by
  obtain ⟨c, rest, rfl⟩ := List.exists_cons_of_ne_nil h.1
  exact ⟨c, rest, rfl, h.2 c (by simp)⟩

theorem Trail.isBlank (h : Trail t) : t.isBlank = true := by
  obtain ⟨blanks, ending, rfl, hb, he⟩ := h
  refine List.all_eq_true.2 fun c hc => ?_
  rcases List.mem_append.1 hc with hc | hc
  · rcases hb c hc with rfl | rfl <;> decide
  · rcases he with rfl | rfl
    · cases hc
    · rw [List.mem_singleton.1 hc]
      decide

theorem Trail.endsLine (h : Trail t) : endsLine t = true := by
  obtain ⟨blanks, ending, rfl, hb, he⟩ := h
  have hp : ∀ c ∈ blanks, (c == ' ' || c == '\t') = true := fun c hc => by simpa using hb c hc
  rw [HeaderGuard.endsLine, List.dropWhile_append_of_pos hp]
  rcases he with rfl | rfl <;> rfl

/-- The end of a line is a trail in front of it. -/
theorem exists_trail_of_endsLine (h : endsLine t = true) : ∃ trail rest, t = trail ++ rest ∧ Trail trail ∧ AtEnd rest := by
  have hblanks : ∀ c ∈ t.takeWhile (fun c => c == ' ' || c == '\t'), c = ' ' ∨ c = '\t' := fun c hc => by
    simpa using List.all_eq_true.1 List.all_takeWhile c hc
  have ht := List.takeWhile_append_dropWhile (p := fun c => c == ' ' || c == '\t') (l := t)
  generalize t.takeWhile (fun c => c == ' ' || c == '\t') = blanks at hblanks ht
  rw [endsLine] at h
  generalize t.dropWhile (fun c => c == ' ' || c == '\t') = u at h ht
  have hreturn : ∃ ending, u = ending ++ (stripStart? u ['\r']).getD u ∧ (ending = [] ∨ ending = ['\r']) := by
    cases hr : stripStart? u ['\r'] with
    | none => exact ⟨[], rfl, Or.inl rfl⟩
    | some rest => exact ⟨['\r'], stripStart?_eq_some_iff.1 hr, Or.inr rfl⟩
  generalize (stripStart? u ['\r']).getD u = rest at h hreturn
  obtain ⟨ending, rfl, he⟩ := hreturn
  refine ⟨blanks ++ ending, rest, by rw [← ht, List.append_assoc], ⟨blanks, ending, rfl, hblanks, he⟩, ?_⟩
  cases rest with
  | nil => exact Or.inl rfl
  | cons c rest => exact Or.inr ⟨rest, by rw [eq_of_beq h]⟩

/-- The end of a word: nothing, or white space. -/
theorem word?_append (hx : Word x) (hy : y = [] ∨ ∃ c z, y = c :: z ∧ isBlankChar c = true) :
    word? (x ++ y) = some (x, y) := by
  have hp : ∀ c ∈ x, (!isBlankChar c) = true := fun c hc => by simp [hx.2 c hc]
  have hy' : y.takeWhile (!isBlankChar ·) = [] ∧ y.dropWhile (!isBlankChar ·) = y := by
    rcases hy with rfl | ⟨c, z, rfl, hc⟩
    · exact ⟨rfl, rfl⟩
    · simp [hc]
  rw [word?, List.takeWhile_append_of_pos hp, List.dropWhile_append_of_pos hp, hy'.1, hy'.2, List.append_nil]
  simp [hx.1]

theorem nil_or_blank_of_isBlank (h : y.isBlank = true) : y = [] ∨ ∃ c z, y = c :: z ∧ isBlankChar c = true := by
  cases y with
  | nil => exact Or.inl rfl
  | cons c z => exact Or.inr ⟨c, z, rfl, List.all_eq_true.1 h c (by simp)⟩

theorem of_word?_eq_some (h : word? t = some (x, y)) : t = x ++ y ∧ Word x := by
  rw [word?] at h
  split at h
  · cases h
  · next hne =>
    cases h
    refine ⟨List.takeWhile_append_dropWhile.symm, by simpa using hne, fun c hc => ?_⟩
    simpa using List.all_eq_true.1 List.all_takeWhile c hc

theorem isBlank_takeWhile (t : Text) : isBlank (t.takeWhile isBlankChar) = true := List.all_takeWhile

/-- White space in front of a text that does not start with any. -/
theorem trimStart_append (hg : x.isBlank = true) (hy : TightStart y) : trimStart (x ++ y) = y :=
  (trimStart_append_of_blank hg y).trans hy.trimStart

theorem afterBlanks?_append (hg : Gap x) (hy : TightStart y) : afterBlanks? (x ++ y) = some y := by
  rw [afterBlanks?, trimStart_append hg.2 hy, if_pos]
  obtain ⟨c, rest, rfl⟩ := List.exists_cons_of_ne_nil hg.1
  exact List.all_eq_true.1 hg.2 c (by simp)

theorem of_afterBlanks?_eq_some (h : afterBlanks? t = some y) : ∃ gap, t = gap ++ y ∧ Gap gap := by
  rw [afterBlanks?, Option.ite_none_right_eq_some, Option.some.injEq] at h
  obtain ⟨hh, rfl⟩ := h
  refine ⟨t.takeWhile isBlankChar, List.takeWhile_append_dropWhile.symm, fun hnil => ?_, isBlank_takeWhile t⟩
  cases t with
  | nil => cases hh
  | cons c t => simp_all

/-! ## Readers and patterns -/

/-- What is read is what the pattern says: a text in front of the end of a line matches it, and a text
that matches it is read to its end. -/
structure Recognises (read : Text → Option Text) (P : Text → Text → Prop) : Prop where
  sound : ∀ {t name}, read t = some name → ∃ part rest, t = part ++ rest ∧ AtEnd rest ∧ P name part
  complete : ∀ {t name}, P name t → read t = some name
  tightStart : ∀ {t name}, P name t → TightStart t

theorem recognises_macro? : Recognises macro? Named where
  sound {t name} h := by
    simp only [macro?, Option.bind_eq_bind, Option.bind_eq_some_iff, Prod.exists, Option.ite_none_right_eq_some,
      Option.some.injEq] at h
    obtain ⟨word, more, hw, he, rfl⟩ := h
    obtain ⟨rfl, hword⟩ := of_word?_eq_some hw
    obtain ⟨trail, rest, rfl, htrail, hrest⟩ := exists_trail_of_endsLine he
    exact ⟨word ++ trail, rest, (List.append_assoc ..).symm, hrest, hword, trail, rfl, htrail⟩
  complete {t name} h := by
    obtain ⟨hword, trail, rfl, htrail⟩ := h
    rw [macro?, word?_append hword (nil_or_blank_of_isBlank htrail.isBlank)]
    simp [htrail.endsLine]
  tightStart {t name} h := by
    obtain ⟨hword, trail, rfl, -⟩ := h
    exact hword.tightStart.append trail

theorem Word.append_close (h : Word x) : Word (x ++ "*/".toList) := by
  refine ⟨by simp, fun c hc => ?_⟩
  rcases List.mem_append.1 hc with hc | hc
  · exact h.2 c hc
  · have hmark : c = '*' ∨ c = '/' := by simpa using hc
    rcases hmark with rfl | rfl <;> decide

theorem boxed_of_inWord (hx : Word x) (h : blockMacro?.inWord x y = some name) :
    ∃ part rest, x ++ y = part ++ rest ∧ AtEnd rest ∧ Boxed name part := by
  simp only [blockMacro?.inWord, Option.bind_eq_bind, Option.bind_eq_some_iff, Option.ite_none_right_eq_some,
    Option.some.injEq, Bool.and_eq_true, Bool.not_eq_true', List.isEmpty_eq_false_iff] at h
  obtain ⟨_, hn, ⟨hne, he⟩, rfl⟩ := h
  obtain rfl := stripEnd?_eq_some_iff.1 hn
  obtain ⟨trail, rest, rfl, htrail, hrest⟩ := exists_trail_of_endsLine he
  refine ⟨_ ++ ([] ++ ("*/".toList ++ trail)), rest, by simp, hrest, ⟨hne, fun c hc => hx.2 c (by simp [hc])⟩, [], trail,
    rfl, rfl, htrail⟩

theorem tightStart_close (t : Text) : TightStart ("*/".toList ++ t) := ⟨'*', '/' :: t, rfl, by decide⟩

theorem recognises_blockMacro? : Recognises blockMacro? Boxed where
  sound {t name} h := by
    simp only [blockMacro?, Option.bind_eq_bind, Option.bind_eq_some_iff, Prod.exists] at h
    obtain ⟨word, more, hw, h⟩ := h
    obtain ⟨rfl, hword⟩ := of_word?_eq_some hw
    split at h
    · next after hclose =>
      split at h
      · next he =>
        obtain rfl := Option.some.inj h
        obtain ⟨trail, rest, rfl, htrail, hrest⟩ := exists_trail_of_endsLine he
        refine ⟨word ++ (more.takeWhile isBlankChar ++ ("*/".toList ++ trail)), rest, ?_, hrest, hword, _, trail, rfl,
          isBlank_takeWhile more, htrail⟩
        have hmore : more = more.takeWhile isBlankChar ++ more.trimStart := List.takeWhile_append_dropWhile.symm
        rw [stripStart?_eq_some_iff.1 hclose] at hmore
        conv_lhs => rw [hmore]
        simp only [List.append_assoc]
      · exact boxed_of_inWord hword h
    · exact boxed_of_inWord hword h
  complete {t name} h := by
    obtain ⟨hword, blanks, trail, rfl, hblanks, htrail⟩ := h
    cases blanks with
    | nil =>
      -- the closing mark belongs to the word
      have hw : word? (name ++ ([] ++ ("*/".toList ++ trail))) = some (name ++ "*/".toList, trail) := by
        rw [List.nil_append, ← List.append_assoc]
        exact word?_append hword.append_close (nil_or_blank_of_isBlank htrail.isBlank)
      have hend : stripEnd? (name ++ "*/".toList) "*/" = some name := stripEnd?_eq_some_iff.2 rfl
      have hclose : stripStart? [] "*/" = none := rfl
      rw [blockMacro?, hw, Option.bind_eq_bind, Option.bind_some]
      simp only [trimStart_of_blank htrail.isBlank, hclose, blockMacro?.inWord, hend, Option.bind_eq_bind, Option.bind_some,
        htrail.endsLine, List.isEmpty_eq_false_iff.2 hword.1, Bool.not_false, Bool.and_self, if_true]
    | cons c blanks =>
      have hw : word? (name ++ (c :: blanks ++ ("*/".toList ++ trail))) = some (name, c :: blanks ++ ("*/".toList ++ trail)) :=
        word?_append hword (Or.inr ⟨c, _, rfl, List.all_eq_true.1 hblanks c (by simp)⟩)
      have hclose : stripStart? ("*/".toList ++ trail) "*/" = some trail := stripStart?_append _ _
      rw [blockMacro?, hw, Option.bind_eq_bind, Option.bind_some]
      simp only [trimStart_append hblanks (tightStart_close trail), hclose, htrail.endsLine, if_true]
  tightStart {t name} h := by
    obtain ⟨hword, blanks, trail, rfl, -⟩ := h
    exact hword.tightStart.append _

variable {read : Text → Option Text} {P : Text → Text → Prop}

theorem Recognises.readAfter (h : Recognises read P) (hkey : TightStart key) :
    Recognises (readAfter key read) (Keyed key P) where
  sound {t name} hr := by
    simp only [HeaderGuard.readAfter, Option.bind_eq_bind, Option.bind_eq_some_iff] at hr
    obtain ⟨behind, hstrip, argument, hgap, hread⟩ := hr
    obtain rfl := stripStart?_eq_some_iff.1 hstrip
    obtain ⟨gap, rfl, hg⟩ := of_afterBlanks?_eq_some hgap
    obtain ⟨part, rest, rfl, hrest, hp⟩ := h.sound hread
    exact ⟨key ++ (gap ++ part), rest, by simp only [List.append_assoc], hrest, gap, part, rfl, hg, hp⟩
  complete {t name} hp := by
    obtain ⟨gap, rest, rfl, hg, hp⟩ := hp
    rw [readAfter_of_stripStart? (stripStart?_append key _), afterBlanks?_append hg (h.tightStart hp)]
    exact h.complete hp
  tightStart {t name} hp := by
    obtain ⟨gap, rest, rfl, -⟩ := hp
    exact hkey.append _

theorem recognises_macroAfter? (hkey : TightStart key) : Recognises (macroAfter? key) (Keyed key Named) :=
  macroAfter?_eq key ▸ recognises_macro?.readAfter hkey

theorem tightStart_endif : TightStart "#endif" := ⟨'#', _, rfl, by decide⟩

theorem recognises_endifLine? : Recognises endifLine? CommentEnd :=
  endifLine?_eq ▸ (recognises_macro?.readAfter ⟨'/', _, rfl, by decide⟩).readAfter tightStart_endif

theorem recognises_endifBlock? : Recognises endifBlock? BlockEnd :=
  endifBlock?_eq ▸ (recognises_blockMacro?.readAfter ⟨'/', _, rfl, by decide⟩).readAfter tightStart_endif

/-! ## A single line -/

theorem AtEnd.eq_nil (h : AtEnd y) (hn : '\n' ∉ x ++ y) : y = [] := by
  rcases h with rfl | ⟨z, rfl⟩
  · rfl
  · exact absurd (by simp) hn

/-- **From a single line** a reader reads what the pattern says. -/
theorem Recognises.eq_some_iff (h : Recognises read P) (hn : '\n' ∉ t) : read t = some name ↔ P name t := by
  refine ⟨fun hr => ?_, h.complete⟩
  obtain ⟨part, rest, rfl, hrest, hp⟩ := h.sound hr
  rwa [hrest.eq_nil hn, List.append_nil]

theorem isBareEndif_eq_true_iff (hn : '\n' ∉ t) : isBareEndif t = true ↔ BareEnd t := by
  simp only [isBareEndif, Option.any_eq_true, stripStart?_eq_some_iff]
  constructor
  · rintro ⟨behind, rfl, he⟩
    obtain ⟨trail, rest, rfl, htrail, hrest⟩ := exists_trail_of_endsLine he
    rw [← List.append_assoc] at hn
    rw [hrest.eq_nil hn, List.append_nil]
    exact ⟨trail, rfl, htrail⟩
  · rintro ⟨trail, rfl, htrail⟩
    exact ⟨trail, rfl, htrail.endsLine⟩

end Classwright.HeaderGuard
