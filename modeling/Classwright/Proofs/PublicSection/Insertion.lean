import Classwright.Proofs.PublicSection.Scan
import Classwright.Proofs.Text.Trim
/-!
# New members stay in the public section

New members are whole lines without a specifier, put where the scan points. Scanning again finds the
same section, longer by those lines, and points behind them (`Extended`): so blocks that are inserted
one after the other stand in their order, all in the section (`insertAll_appends`).
-/
namespace Classwright

/-- Elements put into a list that are not looked for move a later hit and no other. -/
theorem findIdx?_insert {α : Type} {p : α → Bool} {l block : List α} {n : Nat} (hn : n ≤ l.length)
    (hb : ∀ x ∈ block, p x = false) :
    (l.take n ++ block ++ l.drop n).findIdx? p =
      (l.findIdx? p).map fun k => if k < n then k else k + block.length := by
  have hb' : block.findIdx? p = none := List.findIdx?_eq_none_iff.2 hb
  have hl : l.findIdx? p = ((l.take n).findIdx? p).or (((l.drop n).findIdx? p).map (· + (l.take n).length)) := by
    rw [← List.findIdx?_append, List.take_append_drop]
  rw [hl, List.findIdx?_append, List.findIdx?_append, hb']
  cases h1 : (l.take n).findIdx? p with
  | some k =>
    have hk : k < n := by
      obtain ⟨hk, -⟩ := List.findIdx?_eq_some_iff_getElem.1 h1
      simp only [List.length_take] at hk
      omega
    simp [hk]
  | none =>
    cases h2 : (l.drop n).findIdx? p with
    | none => simp
    | some k =>
      simp only [Option.map_none, Option.or_none, Option.none_or, Option.map_some, List.length_append,
        List.length_take, Option.some.injEq]
      rw [if_neg (by omega)]
      omega

namespace ClassSource

open PublicSection

variable {s t : ClassSource} {i : Nat} {block added : List Text}

/-- A line as the scan sees it on any but the first line. -/
def seen (s : ClassSource) (line : Text) : Text := Text.fromColumn (line.dropEndWhile (· == '\r')) s.column

/-- Whole lines that can stand among the members: none is seen as a specifier. -/
structure Admits (s : ClassSource) (block : List Text) : Prop where
  noBreak : ∀ l ∈ block, '\n' ∉ l
  noSpecifier : ∀ l ∈ block, isAccess (s.seen l) = false

/-- The class after whole lines were put in front of the line that new members go to. Its end moves
down with its last line. -/
def insert (s : ClassSource) (block : List Text) : ClassSource where
  symbol := { s.symbol with
    range := ⟨s.symbol.range.start, ⟨s.symbol.range.stop.line + block.length, s.symbol.range.stop.character⟩⟩ }
  text := s.text.insertLines (s.point.line - s.firstLine) block

/-- Blocks of lines inserted one after the other, each where the scan of the text so far points. -/
def insertAll (s : ClassSource) (blocks : List (List Text)) : ClassSource := blocks.foldl insert s

/-! ## One insertion -/

theorem pieces_insert (hi : s.opening? = some i) (hl : i + 1 < s.text.pieces.length) (hb : s.Admits block) :
    (s.insert block).text.pieces = s.text.pieces.take (s.row i) ++ block ++ s.text.pieces.drop (s.row i) := by
  have hp : s.point.line - s.firstLine = s.row i := by rw [point_eq hi]; exact Nat.add_sub_cancel_left ..
  unfold insert
  rw [hp]
  exact Text.pieces_insertLines (row_lt hl) hb.noBreak

theorem lines_insert (hi : s.opening? = some i) (hl : i + 1 < s.text.pieces.length) (hb : s.Admits block) :
    (s.insert block).lines = s.lines.take (s.row i) ++ block.map (·.dropEndWhile (· == '\r')) ++
      s.lines.drop (s.row i) := by
  unfold lines linesOf
  rw [pieces_insert hi hl hb]
  simp

theorem fromClassColumn_insert {column n : Nat} {ls : List Text} (h0 : 0 < n) (hn : n ≤ ls.length) :
    fromClassColumn column (ls.take n ++ block ++ ls.drop n) =
      (fromClassColumn column ls).take n ++ block.map (·.fromColumn column) ++ (fromClassColumn column ls).drop n := by
  obtain ⟨k, rfl⟩ : ∃ k, n = k + 1 := ⟨n - 1, by omega⟩
  cases ls with
  | nil => simp at hn
  | cons first rest => simp [fromClassColumn]

theorem views_insert (hi : s.opening? = some i) (hl : i + 1 < s.text.pieces.length) (hb : s.Admits block) :
    (s.insert block).views = s.views.take (s.row i) ++ block.map s.seen ++ s.views.drop (s.row i) := by
  have h0 := lt_row s i
  have hr := row_lt hl
  have hc : (s.insert block).column = s.column := rfl
  unfold views
  rw [lines_insert hi hl hb, hc, fromClassColumn_insert (by omega) (by simp; omega), List.map_map]
  rfl

theorem isPublic_imp_isAccess {line : Text} (h : isAccess line = false) : isPublic line = false := by
  simp only [isAccess, Bool.or_eq_false_iff] at h
  exact h.1.1

theorem opening_insert (hi : s.opening? = some i) (hl : i + 1 < s.text.pieces.length) (hb : s.Admits block) :
    (s.insert block).opening? = some i := by
  have hp : ∀ v ∈ block.map s.seen, isPublic v = false := by
    simp only [List.mem_map]
    rintro v ⟨l, hl, rfl⟩
    exact isPublic_imp_isAccess (hb.noSpecifier l hl)
  have hr := row_lt hl
  unfold opening?
  rw [views_insert hi hl hb, findIdx?_insert (by simp; omega) hp, show s.views.findIdx? isPublic = some i from hi]
  simp [lt_row s i]

theorem closing_insert (hi : s.opening? = some i) (hl : i + 1 < s.text.pieces.length) (hb : s.Admits block) :
    (s.insert block).closing? i = (s.closing? i).map (· + block.length) := by
  have ha : ∀ v ∈ block.map s.seen, isAccess v = false := by
    simp only [List.mem_map]
    rintro v ⟨l, hl, rfl⟩
    exact hb.noSpecifier l hl
  have h0 := lt_row s i
  have hr := row_lt hl
  -- behind the opening line the same lines are put in, further up by those in front of them
  have hd : (s.insert block).views.drop (i + 1) = (s.views.drop (i + 1)).take (s.row i - (i + 1)) ++
      block.map s.seen ++ (s.views.drop (i + 1)).drop (s.row i - (i + 1)) := by
    rw [views_insert hi hl hb, List.append_assoc, List.drop_append_of_le_length (by simp; omega), List.drop_take,
      List.drop_drop, List.append_assoc]
    congr 3
    omega
  unfold closing?
  rw [hd, findIdx?_insert (by simp; omega) ha]
  cases hk : (s.views.drop (i + 1)).findIdx? isAccess with
  | none => rfl
  | some k =>
    have hrow : s.row i = i + 1 + k := by simp [row, closing?, hk]
    rw [hrow]
    simp
    omega

/-! ## Insertions one after the other -/

/-- `t` is `s` with lines added at the end of the public section that line `i` opens. -/
structure Extended (s : ClassSource) (i : Nat) (added : List Text) (t : ClassSource) : Prop where
  start : t.symbol.range.start = s.symbol.range.start
  pieces : t.text.pieces = s.text.pieces.take (s.row i) ++ added ++ s.text.pieces.drop (s.row i)
  opening : t.opening? = some i
  closing : t.closing? i = (s.closing? i).map (· + added.length)

theorem extended_nil (hi : s.opening? = some i) : s.Extended i [] s :=
  ⟨rfl, by simp, hi, by simp⟩

namespace Extended

theorem column (h : s.Extended i added t) : t.column = s.column := congrArg Position.character h.start

theorem firstLine (h : s.Extended i added t) : t.firstLine = s.firstLine := congrArg Position.line h.start

theorem length_pieces (h : s.Extended i added t) :
    t.text.pieces.length = s.text.pieces.length + added.length := by
  have := congrArg List.length h.pieces
  simp at this
  omega

theorem row (h : s.Extended i added t) (hl : i + 1 < s.text.pieces.length) :
    t.row i = s.row i + added.length := by
  have hn := h.length_pieces
  unfold ClassSource.row
  rw [h.closing]
  cases s.closing? i with
  | some j => rfl
  | none => simp; omega

/-- **One more block** goes behind what was added before. -/
theorem insert (h : s.Extended i added t) (hl : i + 1 < s.text.pieces.length) (hb : t.Admits block) :
    s.Extended i (added ++ block) (t.insert block) := by
  have hlt : i + 1 < t.text.pieces.length := by rw [h.length_pieces]; omega
  have hr := row_lt hl
  refine ⟨h.start, ?_, opening_insert h.opening hlt hb, ?_⟩
  · have hlen : (s.text.pieces.take (s.row i) ++ added).length = t.row i := by
      rw [h.row hl]
      simp
      omega
    rw [pieces_insert h.opening hlt hb, h.pieces, List.take_left' hlen, List.drop_left' hlen]
    simp
  · rw [closing_insert h.opening hlt hb, h.closing, Option.map_map]
    congr 1
    funext k
    simp
    omega

end Extended

theorem extended_insertAll {blocks : List (List Text)} (h : s.Extended i added t)
    (hl : i + 1 < s.text.pieces.length) (hb : ∀ b ∈ blocks, s.Admits b) :
    s.Extended i (added ++ blocks.flatten) (t.insertAll blocks) := by
  induction blocks generalizing t added with
  | nil => simpa [insertAll] using h
  | cons b blocks ih =>
    have hb' : t.Admits b := by
      obtain ⟨h1, h2⟩ := hb b (by simp)
      refine ⟨h1, fun l hl => ?_⟩
      unfold seen
      rw [h.column]
      exact h2 l hl
    have := ih (h.insert hl hb') fun x hx => hb x (by simp [hx])
    simpa [insertAll, List.append_assoc] using this

/-! ## Form and indentation -/

/-- Both sections are closed, both run to the end, or both are missing. -/
def SameForm : PublicSection → PublicSection → Prop
  | bounded .., bounded .. | openEnded .., openEnded .. | missing .., missing .. => True
  | _, _ => False

/-- The first line of the block that is not blank begins with this indentation and then something
that is not blank. -/
def OpensWith (indent : Text) (block : List Text) : Prop :=
  ∃ c rest, block.find? (!·.isBlank) = some (indent ++ c :: rest) ∧ Text.isBlankChar c = false

theorem Extended.sameForm (h : s.Extended i added t) (hi : s.opening? = some i) :
    SameForm t.publicPart s.publicPart := by
  rw [publicPart_eq hi, publicPart_eq h.opening, h.closing]
  cases s.closing? i <;> simp [SameForm]

theorem Extended.point (h : s.Extended i added t) (hi : s.opening? = some i) (hl : i + 1 < s.text.pieces.length) :
    t.point = ⟨s.point.line + added.length, 0⟩ := by
  rw [point_eq hi, point_eq h.opening, h.row hl, h.firstLine, Nat.add_assoc]

/-- The added lines are lines of the section. -/
theorem Extended.range (h : s.Extended i added t) (hi : s.opening? = some i) (hl : i + 1 < s.text.pieces.length) :
    ∃ r, t.publicPart.range? = some r ∧
      ∀ k < added.length, r.start.line ≤ s.point.line + k ∧ s.point.line + k ≤ r.stop.line := by
  have h0 := lt_row s i
  have hrow := h.row hl
  rw [publicPart_eq h.opening, point_eq hi, h.closing, h.firstLine]
  cases hj : s.closing? i with
  | none =>
    refine ⟨_, rfl, fun k hk => ?_⟩
    simp only [hrow]
    omega
  | some j =>
    have hr : s.row i = j := by rw [ClassSource.row, hj]; rfl
    refine ⟨_, rfl, fun k hk => ?_⟩
    simp only [linesBetween, linesBetweenBy, hr, id]
    rw [hr] at h0
    rw [if_neg (by omega)]
    simp only
    omega

theorem Extended.between (h : s.Extended i added t) (hl : i + 1 < s.text.pieces.length) :
    t.between i (t.row i) = s.between i (s.row i) ++ added.map (·.dropEndWhile (· == '\r')) := by
  have h0 := lt_row s i
  have hr := row_lt hl
  have hlines : t.lines = s.lines.take (s.row i) ++ added.map (·.dropEndWhile (· == '\r')) ++
      s.lines.drop (s.row i) := by
    unfold ClassSource.lines linesOf
    rw [h.pieces]
    simp
  unfold ClassSource.between
  rw [h.row hl, hlines, List.append_assoc, List.drop_append_of_le_length (by simp; omega), ← List.append_assoc,
    List.take_left' (by simp; omega), List.drop_take]

theorem memberIndent?_append (a b : List Text) :
    memberIndent? (a ++ b) = (memberIndent? a).or (memberIndent? b) := by
  simp [memberIndent?, List.find?_append, Option.map_or]

/-- Carriage returns at the ends of the lines do not change the indentation that a block opens with. -/
theorem OpensWith.memberIndent? {indent : Text} (h : OpensWith indent block)
    (hb : ∀ c ∈ indent, Text.isBlankChar c = true) :
    PublicSection.memberIndent? (block.map (·.dropEndWhile (· == '\r'))) = some indent := by
  obtain ⟨c, rest, hf, hc⟩ := h
  have hp : ((fun l : Text => !l.isBlank) ∘ fun l : Text => l.dropEndWhile (· == '\r')) = fun l : Text => !l.isBlank := by
    funext l
    simp [Text.isBlank_dropEndWhile_return]
  have hcr : c ≠ '\r' := by
    rintro rfl
    exact absurd hc (by decide)
  have hd : Text.dropEndWhile (· == '\r') (indent ++ c :: rest) = indent ++ c :: Text.dropEndWhile (· == '\r') rest :=
    Text.dropEndWhile_append_cons (by simpa using hcr) indent rest
  rw [PublicSection.memberIndent?, List.find?_map, hp, hf, Option.map_some, Option.map_some, hd,
    List.takeWhile_append_of_pos hb]
  simp [hc]

theorem Extended.indent (h : s.Extended i added t) (hi : s.opening? = some i) (hl : i + 1 < s.text.pieces.length)
    (ho : OpensWith s.publicPart.indent added) : t.publicPart.indent = s.publicPart.indent := by
  rw [indent_eq h.opening, h.between hl, indent_eq hi] at *
  unfold indentOf at *
  rw [h.column, memberIndent?_append]
  cases hm : PublicSection.memberIndent? (s.between i (s.row i)) with
  | some x => rfl
  | none =>
    -- no member shows an indentation yet, so it is the usual one, which the block takes over
    rw [hm, Option.getD_none] at ho
    rw [ho.memberIndent? (by simp [usualIndent, Text.isBlankChar])]
    rfl

/-- **Insertions append.** When the public section of a class does not open on its last line, blocks
of lines without specifiers that are inserted one after the other stand in their order in front of
the line that the first scan named, and nothing else changes. Every scan after them gives a section
of the same form that the same line opens and that holds all of them, and points behind the last.
Its indentation stays when the first line of them that is not blank has it. -/
theorem insertAll_appends (s : ClassSource) {i : Nat} (hi : s.opening? = some i)
    (hl : i + 1 < s.text.pieces.length) (blocks : List (List Text)) (hb : ∀ b ∈ blocks, s.Admits b) :
    (s.insertAll blocks).text.pieces = s.text.pieces.take (s.point.line - s.firstLine) ++ blocks.flatten ++
        s.text.pieces.drop (s.point.line - s.firstLine) ∧
      SameForm (s.insertAll blocks).publicPart s.publicPart ∧
      (s.insertAll blocks).opening? = some i ∧
      (s.insertAll blocks).point = ⟨s.point.line + blocks.flatten.length, 0⟩ ∧
      (∃ r, (s.insertAll blocks).publicPart.range? = some r ∧ ∀ k < blocks.flatten.length,
        r.start.line ≤ s.point.line + k ∧ s.point.line + k ≤ r.stop.line) ∧
      (OpensWith s.publicPart.indent blocks.flatten →
        (s.insertAll blocks).publicPart.indent = s.publicPart.indent) := by
  have h := extended_insertAll (extended_nil hi) hl hb
  rw [List.nil_append] at h
  have hp : s.point.line - s.firstLine = s.row i := by rw [point_eq hi]; exact Nat.add_sub_cancel_left ..
  rw [hp]
  exact ⟨h.pieces, h.sameForm hi, h.opening, h.point hi hl, h.range hi hl, h.indent hi hl⟩

/-- A class inside another one. Its public section is empty, so it stands on its specifier. -/
def nested : ClassSource :=
  ⟨⟨"C", .classType, ⟨⟨10, 4⟩, ⟨13, 6⟩⟩, []⟩, "class C \x7b\n    public:\r\n    private:\n    \x7d;"⟩

theorem insertAll_appends_nested :
    let blocks : List (List Text) := [["        int b;\r"], ["", "        int c;"]]
    nested.opening? = some 1 ∧ 1 + 1 < nested.text.pieces.length ∧ (∀ b ∈ blocks, nested.Admits b) ∧
      OpensWith nested.publicPart.indent blocks.flatten ∧
      (nested.insertAll blocks).text.pieces = (["class C \x7b", "    public:\r", "        int b;\r", "",
        "        int c;", "    private:", "    \x7d;"] : List Text) ∧
      nested.point = ⟨12, 0⟩ ∧ (nested.insertAll blocks).point = ⟨15, 0⟩ ∧
      (nested.insertAll blocks).publicPart.indent = "        " := by
  intro blocks
  have hi : nested.opening? = some 1 := by decide
  have hl : 1 + 1 < nested.text.pieces.length := by decide
  have hb : ∀ b ∈ blocks, nested.Admits b := by
    intro b h
    simp only [blocks, List.mem_cons, List.not_mem_nil, or_false] at h
    rcases h with rfl | rfl
    · exact ⟨by decide, by decide⟩
    · exact ⟨by decide, by decide⟩
  have ho : OpensWith nested.publicPart.indent blocks.flatten := ⟨'i', "nt b;\r", by decide, by decide⟩
  obtain ⟨h1, -, -, h2, -, h3⟩ := insertAll_appends nested hi hl blocks hb
  refine ⟨hi, hl, hb, ho, ?_, by decide, ?_, ?_⟩
  · rw [h1]
    decide
  · rw [h2]
    decide
  · rw [h3 ho]
    decide

end ClassSource
end Classwright
