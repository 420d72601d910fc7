import Classwright.Proofs.HeaderGuard.Edits
import Classwright.Proofs.HeaderGuard.Written
/-!
# Texts that got a guard

A text has the lines of its guard after the guard was amended (`guarded_amend`) or created
(`guarded_create`). They are the first of their kind, and no reader finds anything new on the lines
between and around them (`Guarded`).
-/
namespace Classwright.HeaderGuard

open Text

variable {t u g : Text} {n k : Nat} {w : Lines} {d : Nat × Text}

/-! ## Rewritten lines -/

section Rewritten

variable {directives : List (Nat × Text)} (hp : u.pieces = t.pieces.mapIdx (rewriteLine directives))
include hp

theorem getElem?_rewritten (n : Nat) : u.pieces[n]? = t.pieces[n]?.map (rewriteLine directives n) := by
  rw [hp, List.getElem?_mapIdx]

/-- Behind the lines that got directives, nothing is new. -/
theorem fromLine_rewritten (h : ∀ i line, n ≤ i → rewriteLine directives i line = line) :
    u.fromLine n = t.fromLine n := by
  have hd : u.pieces.drop n = t.pieces.drop n := by
    refine List.ext_getElem? fun i => ?_
    rw [List.getElem?_drop, List.getElem?_drop, getElem?_rewritten hp]
    exact (Option.map_congr fun line _ => h (n + i) line (by omega)).trans Option.map_id'
  rw [fromLine, hd, fromLine]

/-- Up to a line that got a directive, nothing is new. -/
theorem fromLine_rewritten_append (hk : n < k) (hlen : k < t.pieces.length)
    (h : ∀ i line, n ≤ i → i < k → rewriteLine directives i line = line) :
    ∃ x, t.fromLine n = x ++ '\n' :: t.fromLine k ∧ u.fromLine n = x ++ '\n' :: u.fromLine k := by
  have hd : (u.pieces.drop n).take (k - n) = (t.pieces.drop n).take (k - n) := by
    refine List.ext_getElem? fun i => ?_
    rw [List.getElem?_take, List.getElem?_take]
    split
    · rw [List.getElem?_drop, List.getElem?_drop, getElem?_rewritten hp]
      exact (Option.map_congr fun line _ => h (n + i) line (by omega) (by omega)).trans Option.map_id'
    · rfl
  refine ⟨_, fromLine_eq_append hk hlen, ?_⟩
  rw [← hd]
  exact fromLine_eq_append hk (by rw [hp, List.length_mapIdx]; exact hlen)

end Rewritten

/-! ## The lines of a guard -/

theorem mem_directives : d ∈ w.directives g ↔
    d = (w.ifndef, ifndefText g) ∨ d = (w.define, defineText g) ∨ d = (w.endif, endifText g) := by
  simp [Lines.directives]

theorem ifndef_mem : (w.ifndef, ifndefText g) ∈ w.directives g := by simp [Lines.directives]

theorem define_mem : (w.define, defineText g) ∈ w.directives g := by simp [Lines.directives]

theorem endif_mem : (w.endif, endifText g) ∈ w.directives g := by simp [Lines.directives]

theorem rewriteLine_of_mem (h : find? t = some w) (hd : d ∈ w.directives g) (line : Text) :
    rewriteLine (w.directives g) d.1 line = d.2 ++ line.returns := by
  obtain ⟨hab, hbc, -⟩ := lines_of_find? h
  rw [rewriteLine_directives]
  rcases mem_directives.1 hd with rfl | rfl | rfl
  · rw [if_pos rfl]
  · rw [if_neg (by simp only; omega), if_pos rfl]
  · rw [if_neg (by simp only; omega), if_neg (by simp only; omega), if_pos rfl]

theorem forall_ne_iff : (∀ d ∈ w.directives g, n ≠ d.1) ↔ n ≠ w.ifndef ∧ n ≠ w.define ∧ n ≠ w.endif := by
  simp [Lines.directives]

theorem rewriteLine_of_ne (h : ∀ d ∈ w.directives g, n ≠ d.1) (line : Text) :
    rewriteLine (w.directives g) n line = line := by
  obtain ⟨h1, h2, h3⟩ := forall_ne_iff.1 h
  rw [rewriteLine_directives, if_neg h1, if_neg h2, if_neg h3]

theorem lt_length_of_mem (h : find? t = some w) (hd : d ∈ w.directives g) : d.1 < t.pieces.length := by
  obtain ⟨hab, hbc, hc⟩ := lines_of_find? h
  rcases mem_directives.1 hd with rfl | rfl | rfl <;> simp only <;> omega

/-- **Nothing changes** when the lines of a guard get directives that they hold, and only then. -/
theorem edited?_amend_eq_self_iff (h : find? t = some w) (hg : '\n' ∉ g) :
    t.edited? (amend t g) = some t ↔ ∀ d ∈ w.directives g, Holds t d.1 d.2 := by
  obtain ⟨u, hu, hp⟩ := edited?_amend h hg
  rw [hu, Option.some.injEq, ← pieces_injective.eq_iff]
  constructor
  · intro he d hd
    have hline := List.getElem?_eq_getElem (lt_length_of_mem h hd)
    have hr := getElem?_rewritten hp d.1
    rw [he, hline, Option.map_some, rewriteLine_of_mem h hd] at hr
    rw [Holds, returnsAt_eq hline, hline]
    exact hr
  · intro hh
    refine List.ext_getElem? fun n => ?_
    rw [getElem?_rewritten hp]
    by_cases hn : ∃ d ∈ w.directives g, n = d.1
    · obtain ⟨d, hd, rfl⟩ := hn
      have hline := hh d hd
      rw [hline, Option.map_some, rewriteLine_of_mem h hd, ← returnsAt_eq hline]
    · exact (Option.map_congr fun line _ => rewriteLine_of_ne (fun d hd he => hn ⟨d, hd, he⟩) line).trans Option.map_id'

section Word

variable (hg : Word g)
include hg

theorem tightEnd_of_mem (hd : d ∈ w.directives g) : TightEnd d.2 := by
  rcases mem_directives.1 hd with rfl | rfl | rfl
  · exact tightEnd_ifndefText hg
  · exact tightEnd_defineText hg
  · exact tightEnd_endifText hg

/-- A guard with at most one carriage return at the end of each of its lines is read. -/
theorem reads_of_holds (hh : ∀ d ∈ w.directives g, Holds u d.1 d.2 ∧ (returnsAt u d.1).length ≤ 1) :
    macroAfter? "#ifndef" (u.fromLine w.ifndef) = some g ∧ macroAfter? "#define" (u.fromLine w.define) = some g ∧
      endifLine? (u.fromLine w.endif) = some g := by
  obtain ⟨hi, hi'⟩ := hh _ ifndef_mem
  obtain ⟨hd, hd'⟩ := hh _ define_mem
  obtain ⟨he, he'⟩ := hh _ endif_mem
  refine ⟨?_, ?_, ?_⟩
  · rw [hi.read_eq hg (macroAfter?_ifndefText hg), if_pos hi']
  · rw [hd.read_eq hg (macroAfter?_defineText hg), if_pos hd']
  · rw [he.read_eq hg (endifLine?_endifText hg), if_pos he']

end Word

/-! ## Guards that were written -/

/-- The lines of the guard, when one is found, end with at most one carriage return. -/
def Tidy (t : Text) : Prop :=
  ∀ w, find? t = some w → ∀ n ∈ [w.ifndef, w.define, w.endif], (returnsAt t n).length ≤ 1

/-- A guard of the macro was written into `t`, which became `u`, and stands on these lines. To each other
line of `u` belongs a line of `t`, on the same side of the closing directive of its guard: where nothing
was read there, nothing is read here. -/
structure Guarded (t g u : Text) (w : Lines) : Prop where
  ordered : w.ifndef < w.define ∧ w.define < w.endif
  holds : ∀ d ∈ w.directives g, Holds u d.1 d.2
  ifndef : firstLine? (macroAfter? "#ifndef") (lineTails u) = some (w.ifndef, g)
  define : firstLine? (macroAfter? "#define") (lineTails u) = some (w.define, g)
  endif : endifLine? (u.fromLine w.endif) = some g
  kept : ∀ n, (∀ d ∈ w.directives g, n ≠ d.1) → ∃ k,
    (∀ w', find? t = some w' → k ≠ w'.endif ∧ (n < w.endif → k < w'.endif)) ∧
    ∀ read : Text → Option Text, LineReader read → read (t.fromLine k) = none → read (u.fromLine n) = none

section Written

variable (hg : g.IsIdentifier)
include hg

theorem newline_notMem_of_isIdentifier : '\n' ∉ g := hg.notMem (by decide)

theorem beginsDirective_of_mem (hd : d ∈ w.directives g) (h : Holds u d.1 d.2) : BeginsDirective (u.fromLine d.1) := by
  obtain ⟨rest, hf, -⟩ := h.fromLine
  rw [hf]
  rcases mem_directives.1 hd with rfl | rfl | rfl
  · exact beginsDirective_ifndefText hg _
  · exact beginsDirective_defineText hg _
  · exact beginsDirective_endifText g _

/-- Where nothing was read next to the lines of a guard, nothing is read when these are rewritten. -/
theorem LineReader.none_of_rewritten {read : Text → Option Text} (hread : LineReader read) (h : find? t = some w)
    (hp : u.pieces = t.pieces.mapIdx (rewriteLine (w.directives g))) (hh : ∀ d ∈ w.directives g, Holds u d.1 d.2)
    (hn : ∀ d ∈ w.directives g, n ≠ d.1) (ht : read (t.fromLine n) = none) : read (u.fromLine n) = none := by
  -- the next line of the guard ends what is read
  have upTo : ∀ d ∈ w.directives g, n < d.1 → (∀ e ∈ w.directives g, n < e.1 → d.1 ≤ e.1) →
      read (u.fromLine n) = none := by
    intro d hd hlt hmin
    obtain ⟨x, hx, hy⟩ := fromLine_rewritten_append hp hlt (lt_length_of_mem h hd) fun i line h1 h2 =>
      rewriteLine_of_ne (fun e he hi => by
        have h3 := hn e he
        have h4 := hmin e he
        omega) line
    rw [hx] at ht
    rw [hy]
    exact hread.append_of_none x _ (beginsDirective_of_mem hg hd (hh d hd)) (hread.none_of_append x _ ht)
  obtain ⟨hab, hbc, -⟩ := lines_of_find? h
  obtain ⟨-, -, hn3⟩ := forall_ne_iff.1 hn
  simp only [Lines.directives, List.forall_mem_cons, List.not_mem_nil, false_imp_iff, forall_const, and_true] at upTo
  obtain ⟨upTo1, upTo2, upTo3⟩ := upTo
  by_cases h1 : n < w.ifndef
  · exact upTo1 h1 ⟨fun _ => le_refl _, fun _ => by omega, fun _ => by omega⟩
  by_cases h2 : n < w.define
  · exact upTo2 h2 ⟨fun _ => by omega, fun _ => le_refl _, fun _ => by omega⟩
  by_cases h3 : n < w.endif
  · exact upTo3 h3 ⟨fun _ => by omega, fun _ => by omega, fun _ => le_refl _⟩
  rw [fromLine_rewritten hp, ht]
  intro i line hi
  rw [rewriteLine_directives, if_neg (by omega), if_neg (by omega), if_neg (by omega)]

theorem holds_of_rewritten (h : find? t = some w) (ht : Tidy t)
    (hp : u.pieces = t.pieces.mapIdx (rewriteLine (w.directives g))) :
    ∀ d ∈ w.directives g, Holds u d.1 d.2 ∧ (returnsAt u d.1).length ≤ 1 := by
  intro d hd
  have hline := List.getElem?_eq_getElem (lt_length_of_mem h hd)
  have hat : u.pieces[d.1]? = some (d.2 ++ returnsAt t d.1) := by
    rw [getElem?_rewritten hp, hline, Option.map_some, rewriteLine_of_mem h hd, returnsAt_eq hline]
  obtain ⟨h1, h2⟩ := holds_of_getElem? (tightEnd_of_mem (.of_isIdentifier hg) hd) (fun _ => eq_return_of_mem_returnsAt) hat
  have hm : d.1 ∈ (w.directives g).map Prod.fst := List.mem_map_of_mem hd
  exact ⟨h1, h2 ▸ ht w h d.1 hm⟩

theorem guarded_amend (h : find? t = some w) (ht : Tidy t) :
    ∃ u, t.edited? (amend t g) = some u ∧ Guarded t g u w := by
  obtain ⟨u, hu, hp⟩ := edited?_amend h (newline_notMem_of_isIdentifier hg)
  obtain ⟨hab, hbc, -⟩ := lines_of_find? h
  have hh := holds_of_rewritten hg h ht hp
  have hread : ∀ {read : Text → Option Text}, LineReader read → ∀ n, (∀ d ∈ w.directives g, n ≠ d.1) →
      read (t.fromLine n) = none → read (u.fromLine n) = none :=
    fun hread n hn => hread.none_of_rewritten hg h hp (fun d hd => (hh d hd).1) hn
  obtain ⟨_, _, ha, hb, -⟩ := find?_eq_some_iff.1 h
  obtain ⟨hi, hd, he⟩ := reads_of_holds (.of_isIdentifier hg) hh
  refine ⟨u, hu, ⟨hab, hbc⟩, fun d hd => (hh d hd).1, (firstLine?_lineTails rfl).2 ⟨hi, ?_⟩,
    (firstLine?_lineTails rfl).2 ⟨hd, ?_⟩, he, ?_⟩
  · intro m hm
    have hne : ∀ d ∈ w.directives g, m ≠ d.1 := forall_ne_iff.2 ⟨by omega, by omega, by omega⟩
    exact hread (lineReader_macroAfter? (by decide) (by decide)) m hne (((firstLine?_lineTails rfl).1 ha).2 m hm)
  · intro m hm
    by_cases hmi : m = w.ifndef
    · rw [hmi]
      exact eq_none_of_prefix prefix_of_macroAfter? (prefix_of_macroAfter? hi) (by decide) (by decide)
    have hne : ∀ d ∈ w.directives g, m ≠ d.1 := forall_ne_iff.2 ⟨hmi, by omega, by omega⟩
    exact hread (lineReader_macroAfter? (by decide) (by decide)) m hne (((firstLine?_lineTails rfl).1 hb).2 m hm)
  · intro n hn
    refine ⟨n, fun w' hw' => ?_, fun read hr => hread hr n hn⟩
    obtain rfl : w = w' := Option.some.inj (h.symm.trans hw')
    exact ⟨hn _ endif_mem, id⟩

/-- The lines of a text with a new guard. -/
theorem pieces_created (t : Text) : pieces (opening g ++ (t ++ '\n' :: endifText g)) =
    ifndefText g :: defineText g :: [] :: (t.pieces ++ [endifText g]) := by
  have hopen : opening g = wholeLines [ifndefText g, defineText g, []] := by
    have hbreaks : "\n\n".toList = ['\n', '\n'] := rfl
    simp [opening, wholeLines, hbreaks]
  have hn : ∀ d ∈ (⟨0, 1, 2⟩ : Lines).directives g, '\n' ∉ d.2 :=
    newline_notMem_directives (newline_notMem_of_isIdentifier hg)
  have hend : pieces (endifText g) = [endifText g] := splitOn_of_notMem (hn _ endif_mem)
  rw [hopen, pieces_wholeLines_append, pieces_append_newline, hend]
  · rfl
  · simp only [List.forall_mem_cons]
    exact ⟨hn _ ifndef_mem, hn _ define_mem, by simp⟩

theorem fromLine_created (t : Text) (n : Nat) : fromLine (opening g ++ (t ++ '\n' :: endifText g)) (n + 3) =
    joinWith ['\n'] ((t.pieces ++ [endifText g]).drop n) := by
  rw [fromLine, pieces_created hg]
  rfl

/-- Where nothing was read in a text, nothing is read when a guard is put around it. -/
theorem LineReader.none_of_created {read : Text → Option Text} (hread : LineReader read) (h2 : 2 ≤ n)
    (hn : n ≠ t.pieces.length + 3) (ht : read (t.fromLine (n - 3)) = none) :
    read (fromLine (opening g ++ (t ++ '\n' :: endifText g)) n) = none := by
  rcases Nat.lt_or_ge n 3 with hlt | hge
  · -- the empty line behind the opening
    obtain rfl : n = 2 := by omega
    have hf : fromLine (opening g ++ (t ++ '\n' :: endifText g)) 2 =
        '\n' :: joinWith ['\n'] (t.pieces ++ [endifText g]) := by
      rw [fromLine, pieces_created hg]
      exact joinWith_cons (by simp) ['\n'] []
    rw [hf]
    exact hread.newline _
  obtain ⟨k, rfl⟩ := Nat.exists_eq_add_of_le' hge
  rcases Nat.lt_or_ge k t.pieces.length with hk | hk
  · -- a line of the text, read in front of the closing directive
    have hne : t.pieces.drop k ≠ [] := by simp; omega
    have hd : BeginsDirective (endifText g) := by
      have := beginsDirective_endifText g []
      rwa [List.append_nil] at this
    rw [fromLine_created hg, List.drop_append_of_le_length hk.le, joinWith_append hne (by simp), List.append_assoc]
    exact hread.append_of_none _ _ hd ht
  · have hlen : (t.pieces ++ [endifText g]).length ≤ k := by
      simp
      omega
    rw [fromLine_created hg, List.drop_eq_nil_of_le hlen]
    exact hread.nil

theorem holds_of_created (t : Text) : ∀ d ∈ (⟨0, 1, t.pieces.length + 3⟩ : Lines).directives g,
    Holds (opening g ++ (t ++ '\n' :: endifText g)) d.1 d.2 ∧
      (returnsAt (opening g ++ (t ++ '\n' :: endifText g)) d.1).length ≤ 1 := by
  intro d hd
  have hat : (pieces (opening g ++ (t ++ '\n' :: endifText g)))[d.1]? = some (d.2 ++ []) := by
    rw [pieces_created hg, List.append_nil]
    rcases mem_directives.1 hd with rfl | rfl | rfl
    · rfl
    · rfl
    · simp
  obtain ⟨h1, h2⟩ := holds_of_getElem? (tightEnd_of_mem (.of_isIdentifier hg) hd) (by simp) hat
  exact ⟨h1, by simp [h2]⟩

theorem guarded_create (h : find? t = none) : ∃ u w, t.edited? (amend t g) = some u ∧ Guarded t g u w := by
  have hu : t.edited? (amend t g) = some (opening g ++ (t ++ '\n' :: endifText g)) := by
    rw [amend, h]
    exact edited?_create t g
  have hh := holds_of_created hg t
  obtain ⟨hi, hd, he⟩ := reads_of_holds (.of_isIdentifier hg) hh
  refine ⟨_, ⟨0, 1, t.pieces.length + 3⟩, hu, ⟨by simp, by simp⟩, fun d hd => (hh d hd).1,
    (firstLine?_lineTails rfl).2 ⟨hi, ?_⟩, (firstLine?_lineTails rfl).2 ⟨hd, ?_⟩, he, ?_⟩
  · intro m hm
    exact absurd hm (Nat.not_lt_zero m)
  · intro m hm
    obtain rfl : m = 0 := Nat.lt_one_iff.1 hm
    exact eq_none_of_prefix prefix_of_macroAfter? (prefix_of_macroAfter? hi) (by decide) (by decide)
  · intro n hn
    obtain ⟨h0, h1, h3⟩ := forall_ne_iff.1 hn
    have h2 : 2 ≤ n := by
      simp only at h0 h1
      omega
    exact ⟨n - 3, fun w' hw' => by simp [h] at hw', fun read hread ht => hread.none_of_created hg h2 h3 ht⟩

end Written

end Classwright.HeaderGuard
