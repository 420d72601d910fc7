import Mathlib.Data.List.Sort
import Classwright.Proofs.Document.Table
import Classwright.Proofs.Text.Trim
/-!
# Edits of a text

Edits are made as the protocol of editors makes them: all their ranges are those of the text as it
was (`Text.edited?`). A text that is written as hunks, with what is kept, removed and added in each of
them, becomes the text with the added parts (`edited?_edits`); so lines that get a new content become
the lines of the new text (`edited?_passages`).
-/
namespace Classwright

/-- The range ends in front of the other one. -/
def Range.Before (r s : Range) : Prop := s.start.le r.stop = false

/-- A text in place of the bytes from one offset to another. -/
structure Replacement where
  start : Nat
  stop : Nat
  newText : Text

namespace Text

/-- What an edit of a text replaces. There is nothing to replace from a line that the text does not
have, or when the range ends in front of its start. -/
def replacement? (t : Text) (e : TextEdit) : Option Replacement := do
  let start ← (Document.new [] t 0).offsetOf e.range.start
  let stop ← (Document.new [] t 0).offsetOf e.range.stop
  if start ≤ stop then some ⟨start, stop, e.newText⟩ else none

/-- The text from an offset on with replacements made. Each has to start behind the one before. -/
def replaceFrom? (t : Text) (offset : Nat) : List Replacement → Option Text
  | [] => some (t.splitBytes offset).2
  | r :: rest =>
    if offset ≤ r.start then (t.replaceFrom? r.stop rest).map (t.slice offset r.start ++ r.newText ++ ·) else none

/-- The text after edits, which may come in any order but not overlap. Texts that are inserted at one
place keep their order. -/
def edited? (t : Text) (edits : List TextEdit) : Option Text := do
  let replacements ← edits.mapM t.replacement?
  t.replaceFrom? 0 (replacements.insertionSort (·.start ≤ ·.start))

end Text

/-! ## Hunks -/

/-- A part of a text that an edit ends: what is kept in front, what is removed, and what is added in
place of it. -/
structure Hunk where
  kept : Text
  removed : Text
  added : Text

namespace Hunk

def old (hs : List Hunk) : Text := hs.flatMap fun h => h.kept ++ h.removed

def new (hs : List Hunk) : Text := hs.flatMap fun h => h.kept ++ h.added

def edits (p : Position) : List Hunk → List TextEdit
  | [] => []
  | h :: hs =>
    ⟨⟨p.after h.kept, (p.after h.kept).after h.removed⟩, h.added⟩ :: edits ((p.after h.kept).after h.removed) hs

def replacements (offset : Nat) : List Hunk → List Replacement
  | [] => []
  | h :: hs =>
    ⟨offset + h.kept.bytes, offset + h.kept.bytes + h.removed.bytes, h.added⟩ ::
      replacements (offset + h.kept.bytes + h.removed.bytes) hs

theorem old_cons (h : Hunk) (hs : List Hunk) : old (h :: hs) = h.kept ++ (h.removed ++ old hs) := by simp [old]

theorem new_cons (h : Hunk) (hs : List Hunk) : new (h :: hs) = h.kept ++ (h.added ++ new hs) := by simp [new]

end Hunk

namespace Text

open Hunk

variable {t a b : Text} {hs : List Hunk}

theorem offsetOf_new_after (h : t = a ++ b) : (Document.new [] t 0).offsetOf (Position.origin.after a) = some a.bytes :=
  Document.offsetOf_after (d := .new [] t 0) rfl h

/-- The edits of hunks are read as their replacements. -/
theorem mapM_replacement? (hs : List Hunk) (h : t = a ++ (old hs ++ b)) :
    (edits (Position.origin.after a) hs).mapM t.replacement? = some (replacements a.bytes hs) := by
  induction hs generalizing a with
  | nil => rfl
  | cons k hs ih =>
    have h1 : t = (a ++ k.kept) ++ (k.removed ++ (old hs ++ b)) := by rw [h, old_cons]; simp
    have h2 : t = (a ++ k.kept ++ k.removed) ++ (old hs ++ b) := by rw [h, old_cons]; simp
    have hr : t.replacement?
        ⟨⟨Position.origin.after (a ++ k.kept), Position.origin.after (a ++ k.kept ++ k.removed)⟩, k.added⟩ =
        some ⟨(a ++ k.kept).bytes, (a ++ k.kept ++ k.removed).bytes, k.added⟩ := by
      unfold replacement?
      simp only [offsetOf_new_after h1, offsetOf_new_after h2, Option.bind_eq_bind, Option.bind_some]
      rw [if_pos (by rw [bytes_append (a ++ k.kept)]; omega)]
    have hrest := ih h2
    simp only [edits, replacements, ← Position.after_append, ← bytes_append, List.mapM_cons, hr, hrest,
      Option.bind_eq_bind,
      Option.bind_some]
    rfl

theorem le_of_mem_replacements {offset : Nat} {r : Replacement} (h : r ∈ replacements offset hs) :
    offset ≤ r.start := by
  induction hs generalizing offset with
  | nil => cases h
  | cons k hs ih =>
    rcases List.mem_cons.1 h with rfl | h
    · exact Nat.le_add_right ..
    · have := ih h
      omega

theorem pairwise_replacements (offset : Nat) (hs : List Hunk) :
    (replacements offset hs).Pairwise (·.start ≤ ·.start) := by
  induction hs generalizing offset with
  | nil => exact List.Pairwise.nil
  | cons k hs ih =>
    refine List.Pairwise.cons (fun r hr => ?_) (ih _)
    have := le_of_mem_replacements hr
    simp only
    omega

theorem replaceFrom?_replacements (hs : List Hunk) (h : t = a ++ (old hs ++ b)) :
    t.replaceFrom? a.bytes (replacements a.bytes hs) = some (new hs ++ b) := by
  induction hs generalizing a with
  | nil =>
    rw [replacements, replaceFrom?, h, splitBytes_bytes]
    rfl
  | cons k hs ih =>
    have h1 : t = a ++ (k.kept ++ (k.removed ++ (old hs ++ b))) := by rw [h, old_cons]; simp
    have h2 : t = (a ++ k.kept ++ k.removed) ++ (old hs ++ b) := by rw [h, old_cons]; simp
    have hkept : t.slice a.bytes (a.bytes + k.kept.bytes) = k.kept := by rw [h1, slice_bytes]
    have hrest := ih h2
    simp only [bytes_append] at hrest
    rw [replacements, replaceFrom?, if_pos (Nat.le_add_right ..), hrest, hkept, new_cons]
    simp

/-- **Edits of hunks** put the added parts in place of the removed ones and keep the rest. -/
theorem edited?_edits (hs : List Hunk) (b : Text) : (old hs ++ b).edited? (edits .origin hs) = some (new hs ++ b) := by
  have hm := mapM_replacement? (a := []) (b := b) hs rfl
  have hr := replaceFrom?_replacements (a := []) (b := b) hs rfl
  rw [Position.after_nil, bytes_nil, List.nil_append] at hm
  rw [bytes_nil, List.nil_append] at hr
  rw [edited?, hm, Option.bind_eq_bind, Option.bind_some, (pairwise_replacements 0 hs).insertionSort_eq]
  exact hr

end Text

/-! ## Lines with a new content -/

/-- Lines of a text of which the last one gets a new content. Its carriage returns stay. -/
structure Passage where
  front : List Text
  line : Text
  content : Text

namespace Passage

/-- The line without its carriage returns. -/
def removed (p : Passage) : Text := p.line.dropEndWhile (· == '\r')

/-- The lines of passages as they were. -/
def old (ps : List Passage) : List Text := ps.flatMap fun p => p.front ++ [p.line]

def new (ps : List Passage) : List Text := ps.flatMap fun p => p.front ++ [p.content ++ p.line.returns]

/-- The edits of passages that start on a line. -/
def edits (n : Nat) : List Passage → List TextEdit
  | [] => []
  | p :: ps =>
    ⟨⟨⟨n + p.front.length, 0⟩, ⟨n + p.front.length, p.removed.units⟩⟩, p.content⟩ :: edits (n + p.front.length + 1) ps

def hunks (kept : Text) : List Passage → List Hunk
  | [] => []
  | p :: ps => ⟨kept ++ Text.wholeLines p.front, p.removed, p.content⟩ :: hunks (p.line.returns ++ ['\n']) ps

theorem old_cons (p : Passage) (ps : List Passage) : old (p :: ps) = p.front ++ p.line :: old ps := by simp [old]

theorem new_cons (p : Passage) (ps : List Passage) :
    new (p :: ps) = p.front ++ (p.content ++ p.line.returns) :: new ps := by simp [new]

open Text

variable {p : Passage} {ps : List Passage} {t : Text} {back : List Text}

theorem old_ne_nil (hne : ps ≠ []) (back : List Text) : old ps ++ back ≠ [] := by
  obtain ⟨p, more, rfl⟩ := List.exists_cons_of_ne_nil hne
  simp [old_cons]

theorem new_ne_nil (hne : ps ≠ []) (back : List Text) : new ps ++ back ≠ [] := by
  obtain ⟨p, more, rfl⟩ := List.exists_cons_of_ne_nil hne
  simp [new_cons]

/-- Behind the last hunk the texts before and after the edits are the same. -/
theorem exists_joinWith_eq_hunks (hne : ps ≠ []) (kept : Text) (back : List Text) :
    ∃ last, kept ++ joinWith ['\n'] (old ps ++ back) = Hunk.old (hunks kept ps) ++ last ∧
      kept ++ joinWith ['\n'] (new ps ++ back) = Hunk.new (hunks kept ps) ++ last := by
  induction ps generalizing kept with
  | nil => exact absurd rfl hne
  | cons p ps ih =>
    have hline : p.removed ++ p.line.returns = p.line := dropEndWhile_append_returns p.line
    rw [old_cons, new_cons, List.append_assoc, List.append_assoc, List.cons_append, List.cons_append,
      joinWith_append_cons, joinWith_append_cons, hunks, Hunk.old_cons, Hunk.new_cons]
    by_cases hps : ps = []
    · obtain ⟨rest, hrest⟩ := exists_joinWith_cons_eq ['\n'] back
      refine ⟨p.line.returns ++ rest, ?_, ?_⟩
      · rw [hps]
        show kept ++ (wholeLines p.front ++ joinWith ['\n'] (p.line :: back)) = _
        rw [hrest]
        conv_lhs => rw [← hline]
        simp [hunks, Hunk.old]
      · rw [hps]
        show kept ++ (wholeLines p.front ++ joinWith ['\n'] ((p.content ++ p.line.returns) :: back)) = _
        rw [hrest]
        simp [hunks, Hunk.new]
    · obtain ⟨last, h1, h2⟩ := ih hps (p.line.returns ++ ['\n'])
      refine ⟨last, ?_, ?_⟩
      · rw [joinWith_cons (old_ne_nil hps back)]
        conv_lhs => rw [← hline]
        simp only [List.append_assoc] at h1 ⊢
        rw [← h1]
      · rw [joinWith_cons (new_ne_nil hps back)]
        simp only [List.append_assoc] at h2 ⊢
        rw [← h2]

/-- The edits of passages are those of their hunks. -/
theorem edits_hunks {position : Position} {kept : Text} {n : Nat} (h : ∀ l ∈ old ps, '\n' ∉ l)
    (hp : position.after kept = ⟨n, 0⟩) : Hunk.edits position (hunks kept ps) = edits n ps := by
  induction ps generalizing position kept n with
  | nil => rfl
  | cons p ps ih =>
    rw [old_cons] at h
    have hfront : (⟨n, 0⟩ : Position).after (wholeLines p.front) = ⟨n + p.front.length, 0⟩ := by
      rw [Position.after_wholeLines fun l hl => h l (by simp [hl])]
      split <;> simp_all
    have hremoved : '\n' ∉ p.removed := fun hm =>
      h p.line (by simp) (dropEndWhile_append_returns p.line ▸ List.mem_append_left _ hm)
    have hreturns : '\n' ∉ p.line.returns := fun hm => absurd (eq_return_of_mem_returns hm) (by decide)
    simp only [hunks, Hunk.edits, edits, Position.after_append, hp, hfront, Position.after_of_notMem hremoved,
      Nat.zero_add]
    rw [ih (fun l hl => h l (by simp [hl]))]
    rw [Position.after_append, Position.after_of_notMem hreturns, Position.after_cons, Position.next_newline,
      Position.after_nil]

/-- **Lines with a new content**: their edits give a text with the new lines in place of the old ones. -/
theorem edited?_passages (hne : ps ≠ []) (ht : t.pieces = old ps ++ back) (hn : ∀ p ∈ ps, '\n' ∉ p.content) :
    ∃ u, t.edited? (edits 0 ps) = some u ∧ u.pieces = new ps ++ back := by
  have hold : ∀ l ∈ old ps ++ back, '\n' ∉ l := fun l hl => notMem_of_mem_pieces (ht ▸ hl)
  have hnew : ∀ l ∈ new ps ++ back, '\n' ∉ l := by
    intro l hl
    rcases List.mem_append.1 hl with hl | hl
    · obtain ⟨p, hp, hl⟩ := List.mem_flatMap.1 hl
      rcases List.mem_append.1 hl with hl | hl
      · exact hold l (List.mem_append_left _ (List.mem_flatMap.2 ⟨p, hp, List.mem_append_left _ hl⟩))
      · rw [List.mem_singleton.1 hl, List.mem_append, not_or]
        exact ⟨hn p hp, fun hm => absurd (eq_return_of_mem_returns hm) (by decide)⟩
    · exact hold l (List.mem_append_right _ hl)
  obtain ⟨last, h1, h2⟩ := exists_joinWith_eq_hunks hne [] back
  refine ⟨joinWith ['\n'] (new ps ++ back), ?_, pieces_joinWith (new_ne_nil hne back) hnew⟩
  have htext : t = Hunk.old (hunks [] ps) ++ last := by
    rw [← h1, ← ht]
    exact (joinWith_splitOn '\n' t).symm
  have hedits : Hunk.edits .origin (hunks [] ps) = edits 0 ps := edits_hunks (fun l hl => hold l (by simp [hl])) rfl
  rw [← hedits, htext, edited?_edits, ← h2]
  rfl

end Passage
end Classwright
