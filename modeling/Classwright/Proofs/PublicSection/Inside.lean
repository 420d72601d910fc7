import Classwright.Proofs.Document.Offset
import Classwright.Proofs.PublicSection.Scan
import Classwright.Proofs.Text.Search
/-!
# The point for new members is in the class

The class ends where its text leads from its start. The start of a line of the class is inside of it
when the line is one of its own and not the first (`surrounds_lineStart`), and so is the place behind
its opening brace (`surrounds_bodyStart`). Only a section that opens on the last line has its point
behind the class.
-/
namespace Classwright

/-- The position is behind the start of the class and not behind its end. -/
def ClassSymbol.Surrounds (c : ClassSymbol) (p : Position) : Prop :=
  ¬ p.le c.range.start = true ∧ p.le c.range.stop = true

instance (c : ClassSymbol) (p : Position) : Decidable (c.Surrounds p) := inferInstanceAs (Decidable (_ ∧ _))

theorem ClassSymbol.surrounds_iff (c : ClassSymbol) (p : Position) :
    c.Surrounds p ↔
      (c.range.start.line < p.line ∨ c.range.start.line = p.line ∧ c.range.start.character < p.character) ∧
      (p.line < c.range.stop.line ∨ p.line = c.range.stop.line ∧ p.character ≤ c.range.stop.character) := by
  simp only [Surrounds, Position.le, Bool.or_eq_true, Bool.and_eq_true, decide_eq_true_eq, beq_iff_eq]
  omega

namespace PublicSection

theorem exists_braceLine? {ls : List Text} (h : ∃ l ∈ ls, '\x7b' ∈ l) :
    ∃ n before after, braceLine? ls = some (n, before, after) := by
  induction ls with
  | nil => simp at h
  | cons line ls ih =>
    rw [braceLine?]
    cases hc : line.cut? ['\x7b'] with
    | some cut => exact ⟨0, cut.1, ls, rfl⟩
    | none =>
      obtain ⟨l, hl, hm⟩ := h
      rcases List.mem_cons.1 hl with rfl | hl
      · exact absurd ((List.singleton_infix_iff '\x7b' _).2 hm) (Text.cut?_eq_none_iff.1 hc)
      · obtain ⟨n, before, after, hn⟩ := ih ⟨l, hl, hm⟩
        exact ⟨n + 1, before, after, by rw [hn]; rfl⟩

end PublicSection

namespace ClassSource

open PublicSection

variable {s : ClassSource}

/-! ## Places in a class -/

/-- The text of the class leads from its start to its end. -/
def Exact (s : ClassSource) : Prop := s.symbol.range.stop = s.symbol.range.start.after s.text

theorem Exact.stop_eq (h : s.Exact) {front : List Text} {last : Text} (ht : s.text.pieces = front ++ [last]) :
    s.symbol.range.stop = ⟨s.firstLine + front.length, (if front = [] then s.column else 0) + last.units⟩ :=
  h.trans (Position.after_eq _ ht)

/-- The start of a line behind the first one is inside unless the class has ended. -/
theorem surrounds_lineStart (h : s.Exact) {n : Nat} (hn : 0 < n) :
    s.symbol.Surrounds ⟨s.firstLine + n, 0⟩ ↔ n < s.text.pieces.length := by
  obtain ⟨front, last, ht⟩ := Text.exists_pieces_eq_concat s.text
  rw [ClassSymbol.surrounds_iff, h.stop_eq ht, ht]
  simp only [firstLine, List.length_append, List.length_singleton]
  omega

/-- Behind a part of line `n` there is still the class, whose column counts on its first line. -/
theorem surrounds_behind (h : s.Exact) {front after : List Text} {a b : Text}
    (ht : s.text.pieces = front ++ (a ++ b) :: after) (ha : 0 < a.units) :
    s.symbol.Surrounds ⟨s.firstLine + front.length, (if front.length = 0 then s.column else 0) + a.units⟩ := by
  rw [ClassSymbol.surrounds_iff]
  constructor
  · cases front with
    | nil =>
      right
      simp only [firstLine, column, List.length_nil, if_true]
      omega
    | cons l front =>
      left
      simp only [firstLine, List.length_cons]
      omega
  · rcases List.eq_nil_or_concat after with rfl | ⟨more, last, rfl⟩
    · right
      rw [h.stop_eq ht]
      simp only [List.length_eq_zero_iff, Text.units_append]
      exact ⟨trivial, Nat.add_le_add_left (Nat.le_add_right ..) _⟩
    · left
      have hlast : s.text.pieces = (front ++ (a ++ b) :: more) ++ [last] := by simp [ht]
      rw [h.stop_eq hlast]
      simp only [List.length_append, List.length_cons]
      omega

/-- The place behind the opening brace is inside. -/
theorem surrounds_bodyStart (h : s.Exact) (hb : '\x7b' ∈ s.text) :
    s.symbol.Surrounds (bodyStart s.symbol s.text) := by
  obtain ⟨n, before, after, hbr⟩ := exists_braceLine? (Text.exists_mem_pieces (by decide) hb)
  obtain ⟨front, rest, ht, rfl⟩ := eq_of_braceLine? hbr
  simp only [bodyStart, bodyStartBy, hbr, id]
  split
  · -- a line after the brace is not blank, so there is one
    rename_i hany
    have hlen : 0 < after.length := by
      cases after with
      | nil => simp at hany
      | cons => simp
    rw [Nat.add_assoc]
    refine (surrounds_lineStart h (by omega)).2 ?_
    rw [ht]
    simp only [List.length_append, List.length_cons]
    omega
  · have hu : Text.units (before ++ ['\x7b']) = Text.units before + 1 := by
      rw [Text.units_append]
      rfl
    have hp : s.text.pieces = front ++ (before ++ ['\x7b'] ++ rest) :: after := by simp [ht]
    have := surrounds_behind h hp (by omega)
    rwa [hu] at this

/-- The point for new members is inside unless the section opens on the last line. -/
theorem surrounds_point_iff (h : s.Exact) (hb : '\x7b' ∈ s.text) :
    s.symbol.Surrounds s.point ↔ s.opening? ≠ some (s.text.pieces.length - 1) := by
  cases hi : s.opening? with
  | none =>
    have hp : s.point = bodyStart s.symbol s.text := by rw [point, publicPart_eq_missing hi]; rfl
    rw [hp]
    simp [surrounds_bodyStart h hb]
  | some i =>
    have hlt := opening_lt hi
    have h0 := lt_row s i
    rw [point_eq hi, surrounds_lineStart h (by omega), ne_eq, Option.some.injEq]
    by_cases hl : i + 1 = s.text.pieces.length
    · have := row_of_last hl
      omega
    · have := row_lt (s := s) (i := i) (by omega)
      omega

/-! ## Classes of a document -/

def ofDocument (d : Document) (c : ClassSymbol) : ClassSource := ⟨c, d.textIn c.range⟩

theorem exact_ofDocument {d : Document} (hd : d.Reachable) {c : ClassSymbol} (h1 : d.text.HasPosition c.range.start)
    (h2 : d.text.HasPosition c.range.stop) (hne : d.textIn c.range ≠ []) : (ofDocument d c).Exact := by
  obtain ⟨-, -, -, -, hstop⟩ := Document.exists_textIn hd.lineStarts h1 h2 hne
  exact hstop

/-- **New members go into the class** of a document, for each class with a body whose range is
between two positions of the document, unless its public section opens on its last line. Then they
go behind the class. -/
theorem surrounds_point_ofDocument_iff {d : Document} (hd : d.Reachable) {c : ClassSymbol}
    (h1 : d.text.HasPosition c.range.start) (h2 : d.text.HasPosition c.range.stop)
    (hb : '\x7b' ∈ d.textIn c.range) :
    c.Surrounds (ofDocument d c).point ↔
      (ofDocument d c).opening? ≠ some ((d.textIn c.range).pieces.length - 1) := by
  have hne : d.textIn c.range ≠ [] := fun h => by rw [h] at hb; cases hb
  exact surrounds_point_iff (exact_ofDocument hd h1 h2 hne) hb

/-- A class that stands behind other code, without a public section. -/
def tagged : Document := .new "cpp" "int a;\nnamespace n \x7b struct Tag \x7b\n\x7d; \x7d\n" 1

theorem surrounds_point_tagged :
    let c : ClassSymbol := ⟨"Tag", .structType, ⟨⟨1, 14⟩, ⟨2, 1⟩⟩, []⟩
    tagged.Reachable ∧ tagged.text.HasPosition c.range.start ∧ tagged.text.HasPosition c.range.stop ∧
      '\x7b' ∈ tagged.textIn c.range ∧ c.Surrounds (ofDocument tagged c).point := by
  intro c
  have h1 : tagged.text.HasPosition c.range.start :=
    ⟨"namespace n \x7b ", "struct Tag \x7b", by decide, by decide⟩
  have h2 : tagged.text.HasPosition c.range.stop := ⟨"\x7d", "; \x7d", by decide, by decide⟩
  have hb : '\x7b' ∈ tagged.textIn c.range := by decide
  refine ⟨.new .., h1, h2, hb, (surrounds_point_ofDocument_iff (.new ..) h1 h2 hb).2 ?_⟩
  decide

/-- A class whose public section opens on the line that closes the body. -/
def closingLine : Document := .new "cpp" "class C \x7b\npublic: int x; \x7d;" 1

/-- The point for new members of such a class is behind it. -/
theorem not_surrounds_point_closingLine :
    ¬ ∀ (d : Document) (c : ClassSymbol), d.Reachable → d.text.HasPosition c.range.start →
      d.text.HasPosition c.range.stop → '\x7b' ∈ d.textIn c.range → c.Surrounds (ofDocument d c).point := by
  intro h
  let c : ClassSymbol := ⟨"C", .classType, ⟨⟨0, 0⟩, ⟨1, 16⟩⟩, []⟩
  have h1 : closingLine.text.HasPosition c.range.start := ⟨"", "class C \x7b", by decide, by decide⟩
  have h2 : closingLine.text.HasPosition c.range.stop := ⟨"public: int x; \x7d", ";", by decide, by decide⟩
  have hp : (ofDocument closingLine c).point = ⟨2, 0⟩ := by decide
  have hs := h closingLine c (.new ..) h1 h2 (by decide)
  rw [hp] at hs
  exact absurd hs (by decide)

end ClassSource
end Classwright
