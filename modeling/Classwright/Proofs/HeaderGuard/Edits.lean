import Classwright.Proofs.Document.Edits
import Classwright.Proofs.HeaderGuard.Find
/-!
# What the edits of a guard change

A guard is written around a text (`edited?_create`) or on the lines of the guard that is there
(`edited?_amend`), and nothing else changes (`edited?_guard`).
-/
namespace Classwright.HeaderGuard

open Text

variable {t g : Text} {n : Nat} {w : Lines}

/-! ## A new guard -/

/-- The lines in front of a text that gets a guard. -/
def opening (g : Text) : Text := ifndefText g ++ "\n" ++ defineText g ++ "\n\n"

theorem edited?_create (t g : Text) : t.edited? (create t g) = some (opening g ++ (t ++ '\n' :: endifText g)) := by
  let hs : List Hunk := [⟨[], [], opening g⟩, ⟨t, [], '\n' :: endifText g⟩]
  have hedits : create t g = Hunk.edits .origin hs := by
    rw [create, endPosition_eq]
    rfl
  have hold : Hunk.old hs ++ [] = t := by simp [hs, Hunk.old]
  have h := edited?_edits hs []
  rw [hold] at h
  rw [hedits, h]
  simp [hs, Hunk.new]

/-! ## Lines with directives -/

/-- A line with the directive that it gets, in front of the carriage returns that it ends with. A line
that gets none stays. -/
def rewriteLine (directives : List (Nat × Text)) (n : Nat) (line : Text) : Text :=
  match directives.lookup n with
  | some directive => directive ++ line.returns
  | none => line

theorem lookup_eq_none_of_lt {directives : List (Nat × Text)} (h : ∀ d ∈ directives, n < d.1) :
    directives.lookup n = none := by
  rw [List.lookup_eq_none_iff]
  intro d hd
  have := h d hd
  simp
  omega

theorem mapIdx_eq_self {α : Type} {f : Nat → α → α} {l : List α} (h : ∀ i < l.length, ∀ x, f i x = x) :
    l.mapIdx f = l := by
  induction l generalizing f with
  | nil => rfl
  | cons x l ih =>
    rw [List.mapIdx_cons, h 0 (by simp), ih]
    intro i hi y
    exact h (i + 1) (by simpa using hi) y

section Lines

variable {directives : List (Nat × Text)} {front rest : List Text} {d : Nat × Text}

/-- The first line that gets a directive is behind lines that stay. -/
theorem mapIdx_rewriteLine (hn : n + front.length = d.1) (hd : ∀ e ∈ directives, d.1 < e.1) (line : Text) :
    (front ++ line :: rest).mapIdx (fun i => rewriteLine (d :: directives) (n + i)) =
      front ++ (d.2 ++ line.returns) :: rest.mapIdx fun i => rewriteLine directives (d.1 + 1 + i) := by
  have hfront : front.mapIdx (fun i => rewriteLine (d :: directives) (n + i)) = front := by
    refine mapIdx_eq_self fun i hi x => ?_
    rw [rewriteLine, lookup_eq_none_of_lt]
    intro e he
    rcases List.mem_cons.1 he with rfl | he
    · omega
    · have := hd e he
      omega
  have hline : rewriteLine (d :: directives) (n + front.length) line = d.2 ++ line.returns := by
    rw [rewriteLine, hn, List.lookup_cons_self]
  have htail : (fun i => rewriteLine (d :: directives) (n + (i + 1 + front.length))) =
      fun i => rewriteLine directives (d.1 + 1 + i) := by
    funext i x
    have hi : n + (i + 1 + front.length) = d.1 + 1 + i := by omega
    have hne : (d.1 + 1 + i == d.1) = false := by simp; omega
    rw [hi, rewriteLine, rewriteLine, List.lookup_cons, hne]
  rw [List.mapIdx_append, hfront, List.mapIdx_cons]
  simp only [Nat.zero_add, hline, htail]

/-- Behind a line the later lines are counted from there. -/
theorem getD_append_cons {m k : Nat} (hn : n + front.length = m) (hk : m < k) (line : Text) :
    (front ++ line :: rest).getD (k - n) [] = rest.getD (k - (m + 1)) [] := by
  have h : k - n = front.length + (k - (m + 1) + 1) := by omega
  rw [List.getD_eq_getElem?_getD, List.getD_eq_getElem?_getD, h, List.getElem?_append_right (by omega),
    Nat.add_sub_cancel_left, List.getElem?_cons_succ]

end Lines

/-- Lines as passages that end where a line gets a directive. The lines are counted from `n`. -/
theorem exists_passages {directives : List (Nat × Text)} {lines : List Text}
    (hs : (directives.map (·.1)).Pairwise (· < ·)) (h : ∀ d ∈ directives, n ≤ d.1 ∧ d.1 < n + lines.length) :
    ∃ ps back, lines = Passage.old ps ++ back ∧ ps.map (·.content) = directives.map (·.2) ∧
      Passage.edits n ps = directives.map (fun d =>
        ⟨⟨⟨d.1, 0⟩, ⟨d.1, ((lines.getD (d.1 - n) []).dropEndWhile (· == '\r')).units⟩⟩, d.2⟩) ∧
      Passage.new ps ++ back = lines.mapIdx fun i => rewriteLine directives (n + i) := by
  induction directives generalizing n lines with
  | nil =>
    refine ⟨[], lines, rfl, rfl, rfl, ?_⟩
    exact (mapIdx_eq_self fun _ _ _ => rfl).symm
  | cons d directives ih =>
    obtain ⟨hn, hlt⟩ := h d (by simp)
    obtain ⟨hd, hs⟩ := List.pairwise_cons.1 hs
    -- the lines up to the first directive, and the lines behind it
    obtain ⟨front, line, rest, rfl, hlen⟩ : ∃ front line rest, lines = front ++ line :: rest ∧ front.length = d.1 - n :=
      ⟨lines.take (d.1 - n), lines[d.1 - n], lines.drop (d.1 - n + 1),
        by rw [← List.drop_eq_getElem_cons, List.take_append_drop], by simp; omega⟩
    simp only [List.length_append, List.length_cons] at hlt
    have hn' : n + front.length = d.1 := by omega
    have hrest : ∀ e ∈ directives, d.1 + 1 ≤ e.1 ∧ e.1 < d.1 + 1 + rest.length := by
      intro e he
      have h1 : d.1 < e.1 := hd e.1 (List.mem_map_of_mem he)
      have h2 := (h e (by simp [he])).2
      simp only [List.length_append, List.length_cons] at h2
      omega
    obtain ⟨ps, back, hold, hcontent, hedits, hnew⟩ := ih hs hrest
    refine ⟨⟨front, line, d.2⟩ :: ps, back, ?_, ?_, ?_, ?_⟩
    · rw [Passage.old_cons, List.append_assoc, List.cons_append, ← hold]
    · rw [List.map_cons, List.map_cons, hcontent]
    · have hline : (front ++ line :: rest).getD (d.1 - n) [] = line := by simp [← hlen]
      rw [Passage.edits, hn', hedits, List.map_cons, hline]
      simp only [Passage.removed, List.cons.injEq, true_and]
      exact List.map_congr_left fun e he => by rw [getD_append_cons hn' (hrest e he).1]
    · have hd' : ∀ e ∈ directives, d.1 < e.1 := fun e he => (hrest e he).1
      rw [Passage.new_cons, List.append_assoc, List.cons_append, hnew, mapIdx_rewriteLine hn' hd']

/-- **Lines that get directives** become lines with them, and all other lines stay. -/
theorem edited?_replaceLine {directives : List (Nat × Text)} (hne : directives ≠ [])
    (hs : (directives.map (·.1)).Pairwise (· < ·)) (hlt : ∀ d ∈ directives, d.1 < t.pieces.length)
    (hn : ∀ d ∈ directives, '\n' ∉ d.2) :
    ∃ u, t.edited? (directives.map fun d => replaceLine t.pieces d.1 d.2) = some u ∧
      u.pieces = t.pieces.mapIdx (rewriteLine directives) := by
  obtain ⟨ps, back, hold, hcontent, hedits, hnew⟩ :=
    exists_passages (n := 0) hs fun d hd => ⟨Nat.zero_le _, by rw [Nat.zero_add]; exact hlt d hd⟩
  have hps : ps ≠ [] := by
    rintro rfl
    exact hne (by simpa using hcontent.symm)
  obtain ⟨u, hu, hup⟩ := Passage.edited?_passages hps hold fun p hp => by
    have hm : p.content ∈ directives.map (·.2) := hcontent ▸ List.mem_map_of_mem hp
    obtain ⟨d, hd, he⟩ := List.mem_map.1 hm
    exact he ▸ hn d hd
  refine ⟨u, ?_, by rw [hup, hnew]; simp only [Nat.zero_add]⟩
  rw [← hu, hedits]
  rfl

/-! ## Another macro for a guard -/

def Lines.directives (w : Lines) (g : Text) : List (Nat × Text) :=
  [(w.ifndef, ifndefText g), (w.define, defineText g), (w.endif, endifText g)]

theorem rewriteLine_directives (w : Lines) (g : Text) (n : Nat) (line : Text) :
    rewriteLine (w.directives g) n line =
      if n = w.ifndef then ifndefText g ++ line.returns
      else if n = w.define then defineText g ++ line.returns
      else if n = w.endif then endifText g ++ line.returns
      else line := by
  unfold rewriteLine Lines.directives
  by_cases h1 : n = w.ifndef
  · rw [if_pos h1, h1, List.lookup_cons_self]
  · rw [if_neg h1, List.lookup_cons, beq_eq_false_iff_ne.2 h1]
    by_cases h2 : n = w.define
    · rw [if_pos h2, h2, List.lookup_cons_self]
    · rw [if_neg h2, List.lookup_cons, beq_eq_false_iff_ne.2 h2]
      by_cases h3 : n = w.endif
      · rw [if_pos h3, h3, List.lookup_cons_self]
      · rw [if_neg h3, List.lookup_cons, beq_eq_false_iff_ne.2 h3, List.lookup_nil]

theorem amend_of_find? (h : find? t = some w) (g : Text) :
    amend t g = (w.directives g).map fun d => replaceLine t.pieces d.1 d.2 := by
  rw [amend, h]
  rfl

theorem newline_notMem_directives (hg : '\n' ∉ g) : ∀ d ∈ w.directives g, '\n' ∉ d.2 := by
  have notMem : ∀ key : Text, '\n' ∉ key → '\n' ∉ key ++ g := fun key hk hm => (List.mem_append.1 hm).elim hk hg
  intro d hd
  rcases List.mem_cons.1 hd with rfl | hd
  · exact notMem _ (by decide)
  · rcases List.mem_cons.1 hd with rfl | hd
    · exact notMem _ (by decide)
    · rw [List.mem_singleton.1 hd]
      exact notMem _ (by decide)

/-- The lines of a guard that is found get the directives of the new macro. -/
theorem edited?_amend (h : find? t = some w) (hg : '\n' ∉ g) :
    ∃ u, t.edited? (amend t g) = some u ∧ u.pieces = t.pieces.mapIdx (rewriteLine (w.directives g)) := by
  obtain ⟨hab, hbc, hc⟩ := lines_of_find? h
  rw [amend_of_find? h]
  refine edited?_replaceLine (by simp [Lines.directives]) ?_ ?_ (newline_notMem_directives hg)
  · simp [Lines.directives]
    omega
  · simp [Lines.directives]
    omega

/-- A guard with another one inside of it, in a text with both kinds of line ends. -/
def nested : Text := "// é\n#ifndef A_H\r\n#define A_H\r\n#ifndef B\n#endif\n#endif /* A_H */\r\n\n"

end Classwright.HeaderGuard
