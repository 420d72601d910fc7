import Classwright.Proofs.HeaderGuard.Find
import Classwright.Proofs.HeaderGuard.Pattern
/-!
# Guards on single lines

A search that takes each line on its own finds a guard by the patterns of its directives (`OnLines`).
The search of this library lets white space in a directive go over line feeds. When no directive of a
text does so (`Contained`), both find the same lines (`find?_eq_some_iff_onLines`). A bare `#endif` in
front of a comment makes the difference: the comment is taken for its macro
(`not_find?_eq_some_iff_onLines`).
-/
namespace Classwright.HeaderGuard

open Text

variable {t name : Text} {n : Nat} {w : Lines} {lines : List Text} {P : Text → Text → Prop}

/-! ## The search on lines -/

/-- No line matches the pattern. -/
def Nowhere (P : Text → Text → Prop) (lines : List Text) : Prop :=
  ∀ (n : Nat) line, lines[n]? = some line → ∀ name, ¬ P name line

/-- The first line that matches the pattern, and the macro on it. -/
def IsFirst (P : Text → Text → Prop) (lines : List Text) (n : Nat) (name : Text) : Prop :=
  (∃ line, lines[n]? = some line ∧ P name line) ∧ ∀ m < n, ∀ line, lines[m]? = some line → ∀ name, ¬ P name line

def IsLast (p : Text → Prop) (lines : List Text) (n : Nat) : Prop :=
  (∃ line, lines[n]? = some line ∧ p line) ∧ ∀ m, n < m → ∀ line, lines[m]? = some line → ¬ p line

/-- The closing line of a guard, with its macro when it names one: the first with a block comment, or
else the first with a line comment, or else the last bare one. -/
inductive IsClosing (lines : List Text) : Nat → Option Text → Prop
  | block {n : Nat} {name : Text} : IsFirst BlockEnd lines n name → IsClosing lines n (some name)
  | comment {n : Nat} {name : Text} : Nowhere BlockEnd lines → IsFirst CommentEnd lines n name → IsClosing lines n (some name)
  | bare {n : Nat} : Nowhere BlockEnd lines → Nowhere CommentEnd lines → IsLast BareEnd lines n → IsClosing lines n none

/-- The lines of a guard: the first `#ifndef`, the first `#define` and the closing line, in this order
and with one macro. -/
def OnLines (lines : List Text) (w : Lines) : Prop :=
  ∃ name closed, IsFirst (Keyed "#ifndef" Named) lines w.ifndef name ∧ IsFirst (Keyed "#define" Named) lines w.define name ∧
    IsClosing lines w.endif closed ∧ (∀ other ∈ closed, other = name) ∧ w.ifndef < w.define ∧ w.define < w.endif

/-- What matches the pattern at the start of a text, up to the end of a line, does not go over a line
feed. -/
def Stays (P : Text → Text → Prop) (t : Text) : Prop :=
  ∀ name part rest, t = part ++ rest → AtEnd rest → P name part → '\n' ∉ part

/-- No directive of the text goes over a line feed. -/
structure Contained (t : Text) : Prop where
  ifndef : ∀ n, Stays (Keyed "#ifndef" Named) (t.fromLine n)
  define : ∀ n, Stays (Keyed "#define" Named) (t.fromLine n)
  block : ∀ n, Stays BlockEnd (t.fromLine n)
  comment : ∀ n, Stays CommentEnd (t.fromLine n)

/-! ## Searches with readers -/

section Search

variable {read : Text → Option Text} {p : Text → Bool} {q : Text → Prop}

/-- A search for the first line uses nothing but what is read on each line. -/
theorem firstLine?_congr {tails lines : List Text} (h : tails.map read = lines.map read) :
    firstLine? read tails = firstLine? read lines := by
  induction tails generalizing lines with
  | nil =>
    obtain rfl := List.map_eq_nil_iff.1 h.symm
    rfl
  | cons u tails ih =>
    cases lines with
    | nil => cases h
    | cons l lines =>
      rw [List.map_cons, List.map_cons, List.cons.injEq] at h
      rw [firstLine?, firstLine?, h.1, ih h.2]

theorem lastLine?_congr {tails lines : List Text} (h : tails.map p = lines.map p) :
    lastLine? p tails = lastLine? p lines := by
  induction tails generalizing lines with
  | nil =>
    obtain rfl := List.map_eq_nil_iff.1 h.symm
    rfl
  | cons u tails ih =>
    cases lines with
    | nil => cases h
    | cons l lines =>
      rw [List.map_cons, List.map_cons, List.cons.injEq] at h
      rw [lastLine?, lastLine?, h.1, ih h.2]

theorem eq_none_iff_of_eq_some_iff {line : Text} (h : ∀ name, read line = some name ↔ P name line) :
    read line = none ↔ ∀ name, ¬ P name line := by
  rw [Option.eq_none_iff_forall_ne_some]
  exact forall_congr' fun name => not_congr (h name)

theorem firstLine?_eq_some_iff_isFirst (h : ∀ line ∈ lines, ∀ name, read line = some name ↔ P name line) :
    firstLine? read lines = some (n, name) ↔ IsFirst P lines n name := by
  rw [firstLine?_eq_some_iff, IsFirst, Option.bind_eq_some_iff]
  refine and_congr ?_ (forall₂_congr fun m _ => ?_)
  · exact exists_congr fun line => and_congr_right fun hl => h line (List.mem_of_getElem? hl) name
  · rw [Option.bind_eq_none_iff]
    exact forall₂_congr fun line hl => eq_none_iff_of_eq_some_iff (h line (List.mem_of_getElem? hl))

theorem firstLine?_eq_none_iff_nowhere (h : ∀ line ∈ lines, ∀ name, read line = some name ↔ P name line) :
    firstLine? read lines = none ↔ Nowhere P lines := by
  simp only [firstLine?_eq_none_iff, Option.bind_eq_none_iff]
  exact forall₃_congr fun n line hl => eq_none_iff_of_eq_some_iff (h line (List.mem_of_getElem? hl))

theorem lastLine?_eq_none_iff : lastLine? p lines = none ↔ ∀ line ∈ lines, p line = false := by
  induction lines with
  | nil => simp [lastLine?]
  | cons l lines ih =>
    rw [lastLine?, List.forall_mem_cons, ← ih]
    cases lastLine? p lines with
    | some n => simp
    | none => simp

theorem lastLine?_eq_some_iff : lastLine? p lines = some n ↔
    (∃ line, lines[n]? = some line ∧ p line = true) ∧ ∀ m, n < m → ∀ line, lines[m]? = some line → p line = false := by
  induction lines generalizing n with
  | nil => simp [lastLine?]
  | cons l lines ih =>
    rw [lastLine?]
    cases hl : lastLine? p lines with
    | some k =>
      obtain ⟨⟨line, hk, hp⟩, hlast⟩ := ih.1 hl
      cases n with
      | zero =>
        refine iff_of_false (by simp) ?_
        rintro ⟨-, h⟩
        rw [h (k + 1) (by omega) line hk] at hp
        cases hp
      | succ n =>
        rw [Option.some.injEq, Nat.add_right_cancel_iff, ← Option.some.injEq, ← hl, ih, List.getElem?_cons_succ]
        refine and_congr_right fun _ => ⟨fun h m hm => ?_, fun h m hm => ?_⟩
        · obtain ⟨m, rfl⟩ := Nat.exists_eq_succ_of_ne_zero (Nat.ne_zero_of_lt hm)
          exact h m (by omega)
        · exact h (m + 1) (by omega)
    | none =>
      rw [lastLine?_eq_none_iff] at hl
      cases n with
      | zero =>
        simp only [Option.ite_none_right_eq_some, and_true, List.getElem?_cons_zero, Option.some.injEq, exists_eq_left']
        refine ⟨fun h => ⟨h, fun m hm line hline => ?_⟩, fun h => h.1⟩
        obtain ⟨m, rfl⟩ := Nat.exists_eq_succ_of_ne_zero (Nat.ne_zero_of_lt hm)
        exact hl line (List.mem_of_getElem? hline)
      | succ n =>
        refine iff_of_false (by simp) ?_
        rintro ⟨⟨line, hline, hp⟩, -⟩
        rw [hl line (List.mem_of_getElem? hline)] at hp
        cases hp

theorem lastLine?_eq_some_iff_isLast (h : ∀ line ∈ lines, p line = true ↔ q line) :
    lastLine? p lines = some n ↔ IsLast q lines n := by
  rw [lastLine?_eq_some_iff, IsLast]
  refine and_congr ?_ (forall₄_congr fun m _ line hl => ?_)
  · exact exists_congr fun line => and_congr_right fun hl => h line (List.mem_of_getElem? hl)
  · rw [← Bool.not_eq_true]
    exact not_congr (h line (List.mem_of_getElem? hl))

end Search

/-! ## What is read from a line on, and on the line alone -/

theorem head?_pieces_append {x rest : Text} (hx : '\n' ∉ x) (h : AtEnd rest) : (pieces (x ++ rest)).head? = some x := by
  rcases h with rfl | ⟨z, rfl⟩
  · rw [List.append_nil, pieces, splitOn_of_notMem hx]
    rfl
  · rw [pieces, splitOn_append_cons hx]
    rfl

/-- A reader reads the same from a line on as on the line alone when no directive goes over a line feed. -/
theorem Recognises.eq_of_stays {read : Text → Option Text} (h : Recognises read P) (hread : LineReader read)
    (ht : Stays P (t.fromLine n)) {line : Text} (hl : t.pieces[n]? = some line) : read (t.fromLine n) = read line := by
  obtain ⟨behind, hf, hb⟩ := exists_fromLine_eq hl
  have hline : '\n' ∉ line := notMem_of_mem_pieces (List.mem_of_getElem? hl)
  cases hr : read (t.fromLine n) with
  | some name =>
    obtain ⟨part, rest, hpart, hrest, hp⟩ := h.sound hr
    have hnew := ht name part rest hpart hrest hp
    -- both the line and the directive end at the first line feed
    have heq : some part = some line := by
      rw [← head?_pieces_append hnew hrest, ← hpart, hf, head?_pieces_append hline hb]
    rw [← Option.some.inj heq, h.complete hp]
  | none =>
    rcases hb with rfl | ⟨z, rfl⟩
    · rw [← hr, hf, List.append_nil]
    · rw [hf] at hr
      exact (hread.none_of_append line z hr).symm

theorem Recognises.firstLine?_lineTails {read : Text → Option Text} (h : Recognises read P) (hread : LineReader read)
    (ht : ∀ n, Stays P (t.fromLine n)) : firstLine? read (lineTails t) = firstLine? read t.pieces := by
  refine firstLine?_congr (List.ext_getElem? fun n => ?_)
  rw [List.getElem?_map, List.getElem?_map, getElem?_lineTails]
  split
  · next hn => rw [List.getElem?_eq_getElem hn, Option.map_some, Option.map_some,
      h.eq_of_stays hread (ht n) (List.getElem?_eq_getElem hn)]
  · next hn => rw [List.getElem?_eq_none (by omega)]

/-- Whether a bare `#endif` stands on a line never depends on the lines behind it. -/
theorem lastLine?_lineTails (t : Text) : lastLine? isBareEndif (lineTails t) = lastLine? isBareEndif t.pieces := by
  refine lastLine?_congr (List.ext_getElem? fun n => ?_)
  rw [List.getElem?_map, List.getElem?_map, getElem?_lineTails]
  split
  · next hn =>
    obtain ⟨behind, hf, rfl | ⟨z, rfl⟩⟩ := exists_fromLine_eq (List.getElem?_eq_getElem hn)
    · rw [List.getElem?_eq_getElem hn, hf, List.append_nil]
    · rw [List.getElem?_eq_getElem hn, hf, Option.map_some, Option.map_some, isBareEndif, isBareEndif,
        stripStart?_append_newline (by decide)]
      cases stripStart? t.pieces[n] "#endif" with
      | none => rfl
      | some rest => simp only [Option.map_some, Option.any_some, endsLine_append_newline]
  · next hn => rw [List.getElem?_eq_none (by omega)]

/-! ## Directives that stay on their line -/

/-- Nothing goes over a line feed where nothing is read. -/
theorem Recognises.stays_of_eq_none {read : Text → Option Text} (h : Recognises read P) (hread : LineReader read)
    (hr : read t = none) : Stays P t := by
  rintro name part rest rfl hrest hp
  have hnone : read part = none := by
    rcases hrest with rfl | ⟨z, rfl⟩
    · rwa [List.append_nil] at hr
    · exact hread.none_of_append part z hr
  rw [h.complete hp] at hnone
  cases hnone

theorem stays_named (t : Text) : Stays Named t := by
  rintro name part rest - - ⟨hword, trail, rfl, blanks, ending, rfl, hb, he⟩ hm
  simp only [List.mem_append] at hm
  rcases hm with hm | hm | hm
  · exact absurd (hword.2 _ hm) (by decide)
  · rcases hb _ hm with h | h <;> cases h
  · rcases he with rfl | rfl
    · cases hm
    · cases List.mem_singleton.1 hm

/-- A keyword and white space without a line feed keep a directive on its line. -/
theorem Stays.keyed {key : Text} (h : Stays P t) (gap : Text) (hk : '\n' ∉ key) (hg : gap.isBlank = true) (hn : '\n' ∉ gap)
    (ht : TightStart t) (hp : ∀ {x name}, P name x → TightStart x) : Stays (Keyed key P) (key ++ (gap ++ t)) := by
  rintro name part rest heq hrest ⟨gap', inner, rfl, hg', hinner⟩
  rw [List.append_assoc, List.append_cancel_left_eq, List.append_assoc] at heq
  -- both white spaces end where the first other character stands
  have hin : t = inner ++ rest := by
    rw [← trimStart_append hg ht, heq, trimStart_append hg'.2 ((hp hinner).append rest)]
  rw [hin, List.append_cancel_right_eq] at heq
  have hrun := h name inner rest hin hrest hinner
  simp only [List.mem_append, not_or]
  exact ⟨hk, heq ▸ hn, hrun⟩

/-- A directive that is read from one line at most stays on its line when it does so there. -/
theorem Recognises.stays_fromLine {read : Text → Option Text} (h : Recognises read P) (hread : LineReader read) (k : Nat)
    (hk : Stays P (t.fromLine k)) (hr : ∀ n < t.pieces.length, n ≠ k → read (t.fromLine n) = none) :
    ∀ n, Stays P (t.fromLine n) := by
  intro n
  by_cases hn : n = k
  · rwa [hn]
  · refine h.stays_of_eq_none hread ?_
    by_cases hlen : n < t.pieces.length
    · exact hr n hlen hn
    · rw [fromLine_eq_nil (by omega), hread.nil]

/-! ## The lines of a guard -/

theorem closing?_eq_some_iff {closed : Option Text} (h : ∀ line ∈ lines, '\n' ∉ line) :
    closing? lines = some (n, closed) ↔ IsClosing lines n closed := by
  have hblock : ∀ line ∈ lines, ∀ name, endifBlock? line = some name ↔ BlockEnd name line :=
    fun line hl _ => recognises_endifBlock?.eq_some_iff (h line hl)
  have hcomment : ∀ line ∈ lines, ∀ name, endifLine? line = some name ↔ CommentEnd name line :=
    fun line hl _ => recognises_endifLine?.eq_some_iff (h line hl)
  have hbare : ∀ line ∈ lines, isBareEndif line = true ↔ BareEnd line := fun line hl => isBareEndif_eq_true_iff (h line hl)
  unfold closing?
  constructor
  · intro hc
    cases hb : firstLine? endifBlock? lines with
    | some found =>
      rw [hb] at hc
      cases hc
      exact .block ((firstLine?_eq_some_iff_isFirst hblock).1 hb)
    | none =>
      have hnb := (firstLine?_eq_none_iff_nowhere hblock).1 hb
      rw [hb] at hc
      cases hl : firstLine? endifLine? lines with
      | some found =>
        rw [hl] at hc
        cases hc
        exact .comment hnb ((firstLine?_eq_some_iff_isFirst hcomment).1 hl)
      | none =>
        simp only [hl, Option.map_eq_some_iff, Prod.mk.injEq] at hc
        obtain ⟨_, hlast, rfl, rfl⟩ := hc
        exact .bare hnb ((firstLine?_eq_none_iff_nowhere hcomment).1 hl) ((lastLine?_eq_some_iff_isLast hbare).1 hlast)
  · rintro (hb | ⟨hnb, hl⟩ | ⟨hnb, hnl, hlast⟩)
    · rw [(firstLine?_eq_some_iff_isFirst hblock).2 hb]
    · rw [(firstLine?_eq_none_iff_nowhere hblock).2 hnb, (firstLine?_eq_some_iff_isFirst hcomment).2 hl]
    · rw [(firstLine?_eq_none_iff_nowhere hblock).2 hnb, (firstLine?_eq_none_iff_nowhere hcomment).2 hnl,
        (lastLine?_eq_some_iff_isLast hbare).2 hlast]
      rfl

theorem tightStart_hash (key : Text) : TightStart ('#' :: key) := ⟨'#', key, rfl, by decide⟩

/-- The search on single lines, with the readers of directives. -/
theorem onLines_iff (h : ∀ line ∈ lines, '\n' ∉ line) : OnLines lines w ↔ ∃ name closed,
    firstLine? (macroAfter? "#ifndef") lines = some (w.ifndef, name) ∧
    firstLine? (macroAfter? "#define") lines = some (w.define, name) ∧
    closing? lines = some (w.endif, closed) ∧ (∀ other ∈ closed, other = name) ∧
    w.ifndef < w.define ∧ w.define < w.endif := by
  have hreads (key : Text) : ∀ line ∈ lines, ∀ name,
      macroAfter? ('#' :: key) line = some name ↔ Keyed ('#' :: key) Named name line :=
    fun line hl _ => (recognises_macroAfter? (tightStart_hash key)).eq_some_iff (h line hl)
  refine exists₂_congr fun name closed => and_congr ?_ (and_congr ?_ (and_congr_left fun _ => ?_))
  · exact (firstLine?_eq_some_iff_isFirst (hreads "ifndef")).symm
  · exact (firstLine?_eq_some_iff_isFirst (hreads "define")).symm
  · exact (closing?_eq_some_iff h).symm

/-- The searches of a guard give the same on the lines of a text that contains its directives. -/
theorem Contained.searches_lineTails (h : Contained t) :
    firstLine? (macroAfter? "#ifndef") (lineTails t) = firstLine? (macroAfter? "#ifndef") t.pieces ∧
    firstLine? (macroAfter? "#define") (lineTails t) = firstLine? (macroAfter? "#define") t.pieces ∧
    closing? (lineTails t) = closing? t.pieces := by
  refine ⟨?_, ?_, ?_⟩
  · exact (recognises_macroAfter? (tightStart_hash _)).firstLine?_lineTails
      (lineReader_macroAfter? (by decide) (by decide)) h.ifndef
  · exact (recognises_macroAfter? (tightStart_hash _)).firstLine?_lineTails
      (lineReader_macroAfter? (by decide) (by decide)) h.define
  · rw [closing?, closing?, recognises_endifBlock?.firstLine?_lineTails lineReader_endifBlock? h.block,
      recognises_endifLine?.firstLine?_lineTails lineReader_endifLine? h.comment, lastLine?_lineTails]

/-- **A guard is found** where the search on single lines finds it, when no directive of the text goes
over a line feed. -/
theorem find?_eq_some_iff_onLines (h : Contained t) : find? t = some w ↔ OnLines t.pieces w := by
  obtain ⟨hifndef, hdefine, hclosing⟩ := h.searches_lineTails
  rw [onLines_iff fun line hl => notMem_of_mem_pieces hl, ← hifndef, ← hdefine, ← hclosing]
  constructor
  · intro hf
    obtain ⟨name, closed, ha, hb, hc, hn, -⟩ := find?_eq_some_iff.1 hf
    obtain ⟨hab, hbc, -⟩ := lines_of_find? hf
    refine ⟨name, closed, ha, hb, hc, fun other ho => ?_, hab, hbc⟩
    rw [ho] at hn
    exact eq_of_beq hn
  · rintro ⟨name, closed, ha, hb, hc, hn, hab, hbc⟩
    refine find?_eq_some_iff.2 ⟨name, closed, ha, hb, hc, ?_, hab.le, hbc.le⟩
    cases closed with
    | none => rfl
    | some other => simpa using hn other rfl

/-- A guard around a conditional, with a bare `#endif` that no comment follows. -/
def conditionalGuard : Text := "#ifndef A_H\r\n#define A_H\n#ifdef X\n#endif\n\n#endif // A_H\n"

theorem contained_conditionalGuard : Contained conditionalGuard where
  ifndef := by
    refine (recognises_macroAfter? (tightStart_hash _)).stays_fromLine (lineReader_macroAfter? (by decide) (by decide))
      0 ?_ (by decide)
    exact (stays_named _).keyed [' '] (by decide) (by decide) (by decide) ⟨'A', _, rfl, by decide⟩
      recognises_macro?.tightStart
  define := by
    refine (recognises_macroAfter? (tightStart_hash _)).stays_fromLine (lineReader_macroAfter? (by decide) (by decide))
      1 ?_ (by decide)
    exact (stays_named _).keyed [' '] (by decide) (by decide) (by decide) ⟨'A', _, rfl, by decide⟩
      recognises_macro?.tightStart
  block := by
    refine recognises_endifBlock?.stays_fromLine lineReader_endifBlock? 0 ?_ (by decide)
    exact recognises_endifBlock?.stays_of_eq_none lineReader_endifBlock? (by decide)
  comment := by
    refine recognises_endifLine?.stays_fromLine lineReader_endifLine? 5 ?_ (by decide)
    have hname : Stays (Keyed "//" Named) ("//".toList ++ ([' '] ++ "A_H\n".toList)) :=
      (stays_named _).keyed [' '] (by decide) (by decide) (by decide) ⟨'A', _, rfl, by decide⟩ recognises_macro?.tightStart
    exact hname.keyed [' '] (by decide) (by decide) (by decide) ⟨'/', _, rfl, by decide⟩
      (recognises_macro?.readAfter ⟨'/', _, rfl, by decide⟩).tightStart

theorem find?_eq_some_iff_onLines_conditionalGuard :
    Contained conditionalGuard ∧ find? conditionalGuard = some ⟨0, 1, 5⟩ ∧ OnLines conditionalGuard.pieces ⟨0, 1, 5⟩ := by
  have hf : find? conditionalGuard = some ⟨0, 1, 5⟩ := by decide
  exact ⟨contained_conditionalGuard, hf, (find?_eq_some_iff_onLines contained_conditionalGuard).1 hf⟩

/-- A guard around a conditional, with a comment behind the `#endif` of the conditional. -/
def notedGuard : Text := "#ifndef A_H\n#define A_H\n#ifdef X\n#endif\n// note\n#endif"

theorem not_find?_eq_some_iff_onLines : ¬ ∀ t w, find? t = some w ↔ OnLines t.pieces w := by
  intro h
  have hnone : find? notedGuard = none := by decide
  have hlines : OnLines notedGuard.pieces ⟨0, 1, 5⟩ :=
    (onLines_iff (by decide)).2 ⟨"A_H", none, by decide, by decide, by decide, by simp, by decide, by decide⟩
  rw [← h, hnone] at hlines
  cases hlines

end Classwright.HeaderGuard
