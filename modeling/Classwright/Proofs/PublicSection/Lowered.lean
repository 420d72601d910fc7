import Classwright.Proofs.Document.Table
import Classwright.Proofs.Symbol.Locate
import Classwright.PublicSection
/-!
# Outlines below more lines

When lines are put in front of a text, all its positions move down by their number. The class around a range
that moves with the text is the same one (`locate_lowered`), a document has the same text in the range of that
class (`textIn_lowered`), and its public section and its body are read at the moved lines (`ofClass_lowered`,
`bodyStart_lowered`).
-/
namespace Classwright

variable {k : Nat}

/-! ## Positions and outlines -/

/-- The position `k` lines further down. -/
def Position.lowered (k : Nat) (p : Position) : Position := ⟨p.line + k, p.character⟩

/-- The range `k` lines further down. -/
def Range.lowered (k : Nat) (r : Range) : Range := ⟨r.start.lowered k, r.stop.lowered k⟩

mutual
/-- The symbol and all symbols below it, `k` lines further down. -/
def Symbol.lowered (k : Nat) : Symbol → Symbol
  | .node name kind range children => .node name kind (range.lowered k) (Symbol.loweredForest k children)

/-- The symbols of a forest `k` lines further down. -/
def Symbol.loweredForest (k : Nat) : List Symbol → List Symbol
  | [] => []
  | s :: rest => s.lowered k :: Symbol.loweredForest k rest
end

namespace ClassSymbol

/-- The class `k` lines further down. -/
def lowered (k : Nat) (c : ClassSymbol) : ClassSymbol :=
  { c with range := c.range.lowered k, children := Symbol.loweredForest k c.children }

mutual
theorem below_lowered (k : Nat) : ∀ s : Symbol, below (s.lowered k) = (below s).map (lowered k)
  | .node name kind range children => by
    have ih := inForest_lowered k children
    cases hk : ClassKind.ofSymbolKind? kind with
    | none => simp [Symbol.lowered, below, ofSymbol?, hk, ih]
    | some c => simp [Symbol.lowered, below, ofSymbol?, hk, ih, lowered]

/-- **The classes of an outline** move with it. -/
theorem inForest_lowered (k : Nat) :
    ∀ ss : List Symbol, inForest (Symbol.loweredForest k ss) = (inForest ss).map (lowered k)
  | [] => rfl
  | s :: rest => by
    rw [Symbol.loweredForest, inForest, inForest, List.map_append, below_lowered k s, inForest_lowered k rest]
end

theorem containsLines_lowered (c : ClassSymbol) (r : Range) :
    (c.lowered k).containsLines (r.lowered k) = c.containsLines r := by
  simp [containsLines, lowered, Range.lowered, Position.lowered]

theorem distance_lowered (c : ClassSymbol) (r : Range) : (c.lowered k).distance (r.lowered k) = c.distance r := by
  simp only [distance, lowered, Range.lowered, Position.lowered]
  omega

/-- **The class around a range** is the same one when all move down. -/
theorem locate_lowered (k : Nat) (classes : List ClassSymbol) (r : Range) :
    locate (classes.map (lowered k)) (r.lowered k) = (locate classes r).map (lowered k) := by
  rw [locate_eq_find?, locate_eq_find?, List.find?_map]
  congr 2
  funext c
  simp [nearest, least, List.filter_map, containsLines_lowered, distance_lowered, Function.comp_def]

end ClassSymbol

/-! ## Texts of ranges -/

namespace Document

open Text

variable {d d' : Document} {block : List Text}

theorem clampedOffset_lowered (hd : d.lineStarts = lineStartsOf d.text) (hd' : d'.lineStarts = lineStartsOf d'.text)
    (hb : ∀ l ∈ block, '\n' ∉ l) (ht : d'.text = wholeLines block ++ d.text) (p : Position) :
    d'.clampedOffset (p.lowered block.length) = (wholeLines block).bytes + d.clampedOffset p := by
  have hpieces : d'.text.pieces = block ++ d.text.pieces := by rw [ht, pieces_wholeLines_append hb]
  unfold clampedOffset
  by_cases hline : p.line < d.text.pieces.length
  · have hline' : (p.lowered block.length).line < d'.text.pieces.length := by
      rw [hpieces, List.length_append, Position.lowered, Nat.add_comm]
      exact Nat.add_lt_add_left hline _
    have htake : (block ++ d.text.pieces).take (p.line + block.length) = block ++ d.text.pieces.take p.line := by
      rw [Nat.add_comm, List.take_length_add_append]
    rw [offsetOf_getElem hd hline, offsetOf_getElem hd' hline']
    simp only [hpieces, Position.lowered, Option.getD_some, htake, List.getElem_append_right (Nat.le_add_left ..),
      Nat.add_sub_cancel, wholeLines, List.flatMap_append, bytes_append, Nat.add_assoc]
  · -- behind the last line both stand for the end of the text
    have hnone : d.offsetOf p = none := offsetOf_eq_none_iff.2 (by rw [lineCount_eq hd]; exact Nat.not_lt.1 hline)
    have hnone' : d'.offsetOf (p.lowered block.length) = none := by
      rw [offsetOf_eq_none_iff, lineCount_eq hd', hpieces, List.length_append, Position.lowered]
      simp only
      omega
    rw [hnone, hnone', ht, bytes_append]
    rfl

/-- **The text of a range** is the same when lines are put in front of the document. -/
theorem textIn_lowered (hd : d.lineStarts = lineStartsOf d.text) (hd' : d'.lineStarts = lineStartsOf d'.text)
    (hb : ∀ l ∈ block, '\n' ∉ l) (ht : d'.text = wholeLines block ++ d.text) (r : Range) :
    d'.textIn (r.lowered block.length) = d.textIn r := by
  have hoffset := clampedOffset_lowered hd hd' hb ht
  simp only [textIn, Range.lowered, hoffset, ht, Nat.add_max_add_left, slice_bytes_add]

end Document

/-! ## Public sections -/

namespace PublicSection

/-- The section `k` lines further down. -/
def lowered (k : Nat) : PublicSection → PublicSection
  | bounded r i => bounded (r.lowered k) i
  | openEnded r i => openEnded (r.lowered k) i
  | missing i => missing i

theorem indent_lowered (s : PublicSection) : (s.lowered k).indent = s.indent := by cases s <;> rfl

theorem insertionPoint_lowered (s : PublicSection) (p : Position) :
    (s.lowered k).insertionPoint (p.lowered k) = (s.insertionPoint p).lowered k := by
  cases s with
  | bounded r i =>
    simp only [lowered, insertionPoint, insertionPointBy, Range.lowered, Position.lowered, Nat.add_right_comm, id]
  | openEnded r i => rfl
  | missing i => rfl

theorem linesBetween_lowered (specifier stop : Nat) :
    linesBetween (specifier + k) (stop + k) = (linesBetween specifier stop).lowered k := by
  simp only [linesBetween, linesBetweenBy, id]
  by_cases h : stop ≤ specifier + 1
  · rw [if_pos h, if_pos (by omega)]
    rfl
  · rw [if_neg h, if_neg (by omega)]
    simp only [Range.lowered, Position.lowered, Range.mk.injEq, Position.mk.injEq, and_true]
    omega

/-- **The section of a class** is found on the same lines of the class. -/
theorem ofClass_lowered (c : ClassSymbol) (classText : Text) :
    ofClass (c.lowered k) classText = (ofClass c classText).lowered k := by
  unfold ofClass ofClassBy
  simp only [ClassSymbol.lowered, Range.lowered, Position.lowered, id]
  cases (fromClassColumn c.range.start.character (linesOf classText)).findIdx? isPublic with
  | none => rfl
  | some i =>
    simp only
    cases ((fromClassColumn c.range.start.character (linesOf classText)).drop (i + 1)).findIdx? isAccess with
    | none =>
      simp only [lowered, Range.lowered, Position.lowered, openEnded.injEq, Range.mk.injEq, Position.mk.injEq, and_true]
      omega
    | some j =>
      simp only [lowered, bounded.injEq, and_true]
      rw [← linesBetween, ← linesBetween_lowered]
      congr 1 <;> omega

/-- **The body of a class** begins in the same place of the class. -/
theorem bodyStart_lowered (c : ClassSymbol) (classText : Text) :
    bodyStart (c.lowered k) classText = (bodyStart c classText).lowered k := by
  unfold bodyStart bodyStartBy
  simp only [ClassSymbol.lowered, Range.lowered, Position.lowered, id]
  cases braceLine? classText.pieces with
  | none => simp only [Nat.add_right_comm]
  | some found =>
    obtain ⟨n, before, after⟩ := found
    simp only
    split
    · simp only [Nat.add_right_comm]
    · simp only [Nat.add_right_comm]

end PublicSection
end Classwright
