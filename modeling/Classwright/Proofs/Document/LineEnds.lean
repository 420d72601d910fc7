import Classwright.Document.Basic
import Classwright.Proofs.Document.Table
import Classwright.Proofs.Text.Crlf
import Classwright.Proofs.Text.Search
/-!
# Line ends in a class text

Where new members go depends on the lines of a class text, without the carriage returns at their ends
(`bodyStart_congr`). A range of a document covers the same lines when the document has carriage
returns in front of its line feeds (`linesOf_textIn_crlf`), even if an end of the range is behind the
end of a line, between the carriage return and the line feed.
-/
namespace Classwright

namespace PublicSection

open Text

variable {t t' : Text}

/-- The brace of a line and what is in front of it do not depend on carriage returns at ends of lines. -/
theorem braceLine?_map_dropEndWhile (lines : List Text) :
    braceLine? (lines.map (dropEndWhile (· == '\r'))) =
      (braceLine? lines).map fun (n, before, after) => (n, before, after.map (dropEndWhile (· == '\r'))) := by
  induction lines with
  | nil => rfl
  | cons line rest ih =>
    rw [List.map_cons, braceLine?, braceLine?]
    by_cases hbrace : '\x7b' ∈ line
    · obtain ⟨before, behind, rfl, hbefore⟩ := List.eq_append_cons_of_mem hbrace
      rw [dropEndWhile_append_cons (by decide), cut?_char hbefore, cut?_char hbefore]
      rfl
    · have hnone : ∀ l : Text, '\x7b' ∉ l → l.cut? ['\x7b'] = none := fun l hl =>
        cut?_eq_none_iff.2 fun hi => hl (hi.subset (by simp))
      have hdrop : '\x7b' ∉ line.dropEndWhile (· == '\r') := fun hm =>
        hbrace (dropEndWhile_append_returns line ▸ List.mem_append_left _ hm)
      rw [hnone _ hdrop, hnone _ hbrace]
      simp only [ih, Option.map_map]
      rfl

theorem bodyStart_congr (c : ClassSymbol) (h : linesOf t = linesOf t') : bodyStart c t = bodyStart c t' := by
  have hbrace := congrArg braceLine? h
  rw [linesOf, linesOf, braceLine?_map_dropEndWhile, braceLine?_map_dropEndWhile] at hbrace
  have hblank : ∀ ls : List Text, ls.any (!·.isBlank) = (ls.map (dropEndWhile (· == '\r'))).any (!·.isBlank) := fun ls => by
    simp [List.any_map, Function.comp_def, isBlank_dropEndWhile_return]
  unfold bodyStart bodyStartBy
  cases hb : braceLine? t.pieces with
  | none =>
    rw [hb] at hbrace
    rw [Option.map_eq_none_iff.1 hbrace.symm]
  | some found =>
    obtain ⟨n, before, after⟩ := found
    rw [hb, Option.map_some, eq_comm, Option.map_eq_some_iff] at hbrace
    obtain ⟨⟨n', before', after'⟩, hb', he⟩ := hbrace
    simp only [Prod.mk.injEq] at he
    obtain ⟨rfl, rfl, hafter⟩ := he
    rw [hb']
    simp only [hblank after, hblank after', hafter]

theorem ofClass_congr (c : ClassSymbol) (h : linesOf t = linesOf t') : ofClass c t = ofClass c t' := by
  simp only [ofClass, ofClassBy, h]

end PublicSection

namespace Document

open Text PublicSection

variable {d d' : Document}

theorem splitAtColumn_concat (c : Char) (line : Text) (column : Nat) :
    (line ++ [c]).splitAtColumn column = ((line.splitAtColumn column).1, (line.splitAtColumn column).2 ++ [c]) ∨
      line.splitAtColumn column = (line, []) ∧ (line ++ [c]).splitAtColumn column = (line ++ [c], []) := by
  induction line generalizing column with
  | nil =>
    cases column with
    | zero => exact Or.inl rfl
    | succ n => exact Or.inr ⟨rfl, rfl⟩
  | cons x line ih =>
    cases column with
    | zero => exact Or.inl rfl
    | succ n =>
      simp only [List.cons_append, splitAtColumn]
      rcases ih (n + 1 - unitsOf x) with h | ⟨h, h'⟩
      · exact Or.inl (by rw [h])
      · exact Or.inr (by rw [h, h']; exact ⟨rfl, rfl⟩)

/-- What is in front of a place in a text, and what is in front of the same place in its other form:
there may be a carriage return more where a line ends. -/
def SamePlace (a b a' : Text) : Prop :=
  ∃ s b', a' = a.crlf ++ s ∧ b.crlf = s ++ b' ∧ (s = [] ∨ s = ['\r'] ∧ b.head? = some '\n')

theorem exists_samePlace (hd : d.lineStarts = lineStartsOf d.text) (hd' : d'.lineStarts = lineStartsOf d'.text)
    (ht : d'.text = d.text.crlf) (p : Position) :
    ∃ a b a', d.text = a ++ b ∧ d.clampedOffset p = a.bytes ∧ d'.clampedOffset p = a'.bytes ∧ SamePlace a b a' := by
  unfold clampedOffset
  rcases Nat.lt_or_ge p.line d.text.pieces.length with hp | hp
  · have hline := List.getElem?_eq_getElem hp
    have hpieces : d.text.pieces = d.text.pieces.take p.line ++ d.text.pieces[p.line] :: d.text.pieces.drop (p.line + 1) := by
      rw [← List.drop_eq_getElem_cons, List.take_append_drop]
    have hlength : (d.text.pieces.take p.line).length = p.line := by rw [List.length_take]; omega
    obtain ⟨more, htext, hmore⟩ := exists_eq_wholeLines_append hline
    have hfront : ∀ l ∈ d.text.pieces.take p.line, '\n' ∉ l := fun l hl => notMem_of_mem_pieces (List.mem_of_mem_take hl)
    have hn : '\n' ∉ d.text.pieces[p.line] := notMem_of_mem_pieces (List.mem_of_getElem? hline)
    generalize d.text.pieces[p.line] = line at *
    generalize d.text.pieces.take p.line = front at *
    obtain ⟨s, back, hpieces', hs⟩ := exists_pieces_crlf_eq hfront hn hmore
    rw [← htext, ← ht] at hpieces'
    rw [offsetOf_eq hd hpieces hlength, offsetOf_eq hd' hpieces' (by rwa [List.length_map]), ← crlf_wholeLines hfront]
    simp only [Option.getD_some, byteColumn, ← bytes_append]
    have hx : '\n' ∉ (line.splitAtColumn p.character).1 := fun hm =>
      hn (splitAtColumn_append line p.character ▸ List.mem_append_left _ hm)
    have hcut : d.text = (wholeLines front ++ (line.splitAtColumn p.character).1) ++
        ((line.splitAtColumn p.character).2 ++ more) := by
      rw [htext, ← List.append_assoc, List.append_assoc _ _ (line.splitAtColumn p.character).2, splitAtColumn_append]
    have hcrlf : crlf (wholeLines front ++ (line.splitAtColumn p.character).1) =
        crlf (wholeLines front) ++ (line.splitAtColumn p.character).1 := by
      rw [crlf_append, crlf_of_notMem hx]
    refine ⟨_, _, _, hcut, rfl, rfl, ?_⟩
    rcases hs with rfl | ⟨rfl, hnewline⟩
    · exact ⟨[], _, by rw [hcrlf, List.append_nil, List.append_nil], rfl, Or.inl rfl⟩
    · rcases splitAtColumn_concat '\r' line p.character with h | ⟨h, h'⟩
      · exact ⟨[], _, by rw [hcrlf, h, List.append_nil], rfl, Or.inl rfl⟩
      · -- the column is behind the line, so the carriage return is in front of it
        obtain ⟨rest, rfl⟩ : ∃ rest, more = '\n' :: rest := hmore.resolve_left (by rintro rfl; cases hnewline)
        exact ⟨['\r'], '\n' :: crlf rest, by rw [hcrlf, h, h', List.append_assoc], by rw [h]; rfl, Or.inr ⟨rfl, by rw [h]; rfl⟩⟩
  · have hcount : d'.text.pieces.length = d.text.pieces.length := by rw [ht]; exact length_pieces_crlf d.text
    have h1 : d.offsetOf p = none := offsetOf_eq_none_iff.2 (by rwa [lineCount_eq hd])
    have h2 : d'.offsetOf p = none := offsetOf_eq_none_iff.2 (by rwa [lineCount_eq hd', hcount])
    exact ⟨d.text, [], d'.text, by simp, by rw [h1]; rfl, by rw [h2]; rfl, [], [], by simp [ht], rfl, Or.inl rfl⟩

theorem textIn_eq (r : Range) {a m b : Text} (ht : d.text = a ++ (m ++ b)) (h1 : d.clampedOffset r.start = a.bytes)
    (h2 : d.clampedOffset r.stop = a.bytes + m.bytes) : d.textIn r = m := by
  rw [textIn, h1, h2, ht, Nat.max_eq_left (Nat.le_add_right _ _)]
  exact slice_bytes ..

theorem textIn_eq_nil {r : Range} (h : d.clampedOffset r.stop ≤ d.clampedOffset r.start) : d.textIn r = [] := by
  rw [textIn, Nat.max_eq_right h]
  exact slice_self ..

/-- Both ends of a range in their order. -/
theorem linesOf_textIn_of_le {r : Range} {a m f a' e' : Text} (htext : d.text = a ++ (m ++ f)) (ht : d'.text = d.text.crlf)
    (h1 : d.clampedOffset r.start = a.bytes) (h2 : d.clampedOffset r.stop = a.bytes + m.bytes)
    (h1' : d'.clampedOffset r.start = a'.bytes) (h2' : d'.clampedOffset r.stop = e'.bytes)
    (ha : SamePlace a (m ++ f) a') (he : SamePlace (a ++ m) f e') : linesOf (d'.textIn r) = linesOf (d.textIn r) := by
  obtain ⟨s, b', rfl, hb, hs⟩ := ha
  obtain ⟨u, f', rfl, hf, hu⟩ := he
  have htail : ∀ x : Text, linesOf (x ++ u) = linesOf x := fun x => by
    rcases hu with rfl | ⟨rfl, -⟩
    · rw [List.append_nil]
    · exact linesOf_append_return x
  rw [textIn_eq r htext h1 h2]
  rw [crlf_append] at h2'
  rcases hs with rfl | ⟨rfl, hnewline⟩
  · have htext' : d'.text = a.crlf ++ ((m.crlf ++ u) ++ f') := by
      rw [ht, htext, crlf_append, crlf_append, hf, List.append_assoc]
    rw [textIn_eq r htext' (by simpa using h1') (by simpa [Nat.add_assoc] using h2'), htail, linesOf_crlf]
  · cases m with
    | nil =>
      -- no text between the ends, at most a carriage return between those of the other form
      have hle : d'.clampedOffset r.stop ≤ d'.clampedOffset r.start := by
        rcases hu with rfl | ⟨rfl, -⟩ <;> simp [h1', h2']
      rw [textIn_eq_nil hle]
    | cons c m =>
      obtain rfl : c = '\n' := Option.some.inj hnewline
      have htext' : d'.text = (a.crlf ++ ['\r']) ++ (('\n' :: crlf m ++ u) ++ f') := by
        rw [ht, htext, crlf_append, crlf_append, hf]
        simp
      rw [textIn_eq r htext' h1' (by rw [h2', crlf_newline]; simp; omega), htail, ← linesOf_return_newline, ← crlf_newline,
        linesOf_crlf]

/-- **A range covers the same lines** in both forms of a document. -/
theorem linesOf_textIn_crlf (hd : d.lineStarts = lineStartsOf d.text) (hd' : d'.lineStarts = lineStartsOf d'.text)
    (ht : d'.text = d.text.crlf) (r : Range) : linesOf (d'.textIn r) = linesOf (d.textIn r) := by
  obtain ⟨a, b, a', hab, h1, h1', ha⟩ := exists_samePlace hd hd' ht r.start
  obtain ⟨e, f, e', hef, h2, h2', he⟩ := exists_samePlace hd hd' ht r.stop
  rcases List.append_eq_append_iff.1 (hab.symm.trans hef) with ⟨m, rfl, rfl⟩ | ⟨m, rfl, rfl⟩
  · exact linesOf_textIn_of_le hab ht h1 (by rw [h2, bytes_append]) h1' h2' ha he
  · cases m with
    | nil =>
      rw [List.append_nil] at ha h1
      exact linesOf_textIn_of_le (m := []) hef ht h1 h2 h1' h2' ha (by rwa [List.append_nil])
    | cons c m =>
      -- the range is the wrong way round, also with a carriage return more at its end
      obtain ⟨s, -, rfl, -, -⟩ := ha
      obtain ⟨u, -, rfl, -, hu⟩ := he
      have hpos := c.utf8Size_pos
      have hcrlf := bytes_le_bytes_crlf (c :: m)
      have hu : u.bytes ≤ 1 := by rcases hu with rfl | ⟨rfl, -⟩ <;> decide
      rw [bytes_cons] at hcrlf
      have hle : d.clampedOffset r.stop ≤ d.clampedOffset r.start := by rw [h1, h2, bytes_append]; omega
      have hle' : d'.clampedOffset r.stop ≤ d'.clampedOffset r.start := by
        rw [h1', h2', crlf_append, bytes_append, bytes_append, bytes_append]
        omega
      rw [textIn_eq_nil hle, textIn_eq_nil hle']

end Document
end Classwright
