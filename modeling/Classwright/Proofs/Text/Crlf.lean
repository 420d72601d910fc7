import Classwright.Proofs.Text.Place
import Classwright.Proofs.Text.Trim
import Classwright.PublicSection
/-!
# Texts with carriage returns

The form of a text in which each line feed follows a carriage return. It has the same lines, apart
from carriage returns at their ends (`linesOf_crlf`), and the same places in them (`after_crlf`).
-/
namespace Classwright

namespace Text

variable {a b t z : Text} {c : Char}

/-- A carriage return in front of a line feed. -/
def crlfChar (c : Char) : Text := if c = '\n' then ['\r', '\n'] else [c]

/-- The text with a carriage return in front of each line feed. -/
def crlf (t : Text) : Text := t.flatMap crlfChar

@[simp] theorem crlf_nil : crlf [] = [] := rfl

@[simp] theorem crlf_newline (t : Text) : crlf ('\n' :: t) = '\r' :: '\n' :: t.crlf := rfl

theorem crlf_cons_of_ne (h : c ≠ '\n') (t : Text) : crlf (c :: t) = c :: t.crlf := by
  simp [crlf, crlfChar, h]

theorem crlf_append (a b : Text) : crlf (a ++ b) = a.crlf ++ b.crlf := List.flatMap_append

theorem crlf_of_notMem (h : '\n' ∉ t) : t.crlf = t := by
  induction t with
  | nil => rfl
  | cons c t ih =>
    obtain ⟨hc, ht⟩ : c ≠ '\n' ∧ '\n' ∉ t := by simpa [eq_comm] using h
    rw [crlf_cons_of_ne hc, ih ht]

/-- A carriage return at the end of each line. -/
theorem crlf_wholeLines {front : List Text} (h : ∀ l ∈ front, '\n' ∉ l) :
    crlf (wholeLines front) = wholeLines (front.map (· ++ ['\r'])) := by
  induction front with
  | nil => rfl
  | cons l front ih =>
    rw [List.map_cons, wholeLines_cons, wholeLines_cons, crlf_append, crlf_newline, crlf_of_notMem (h l (by simp)),
      ih fun x hx => h x (by simp [hx]), List.append_assoc]
    rfl

theorem pieces_crlf {front : List Text} {last : Text} (h : t.pieces = front ++ [last]) :
    t.crlf.pieces = front.map (· ++ ['\r']) ++ [last] := by
  have hn : ∀ l ∈ front ++ [last], '\n' ∉ l := fun l hl => notMem_of_mem_pieces (h ▸ hl)
  have hfront : ∀ l ∈ front.map (· ++ ['\r']), '\n' ∉ l := by
    intro l hl
    obtain ⟨x, hx, rfl⟩ := List.mem_map.1 hl
    have := hn x (by simp [hx])
    simp [this]
  have hlast : '\n' ∉ last := hn last (by simp)
  rw [eq_wholeLines_append h, crlf_append, crlf_wholeLines fun l hl => hn l (by simp [hl]), crlf_of_notMem hlast,
    pieces_wholeLines_append hfront, pieces, splitOn_of_notMem hlast]

/-- A line of a text and the same line of the other form, with a carriage return unless it is the last. -/
theorem exists_pieces_crlf_eq {front : List Text} {line more : Text} (hfront : ∀ l ∈ front, '\n' ∉ l) (hline : '\n' ∉ line)
    (hmore : more = [] ∨ ∃ rest, more = '\n' :: rest) : ∃ s back,
      (crlf (wholeLines front ++ line ++ more)).pieces = front.map (· ++ ['\r']) ++ (line ++ s) :: back ∧
        (s = [] ∨ s = ['\r'] ∧ more.head? = some '\n') := by
  rcases hmore with rfl | ⟨rest, rfl⟩
  · have hpieces : (wholeLines front ++ line ++ []).pieces = front ++ [line] := by
      rw [List.append_nil, pieces_wholeLines_append hfront, pieces, splitOn_of_notMem hline]
    exact ⟨[], [], by rw [pieces_crlf hpieces, List.append_nil], Or.inl rfl⟩
  · have hpieces : (wholeLines front ++ line ++ '\n' :: rest).pieces = (front ++ [line]) ++ pieces rest := by
      rw [pieces_append_newline, pieces_wholeLines_append hfront, pieces, splitOn_of_notMem hline]
    obtain ⟨between, last, hrest⟩ := exists_pieces_eq_concat rest
    rw [hrest, ← List.append_assoc] at hpieces
    exact ⟨['\r'], between.map (· ++ ['\r']) ++ [last], by rw [pieces_crlf hpieces]; simp, Or.inr ⟨rfl, rfl⟩⟩

theorem length_pieces_crlf (t : Text) : t.crlf.pieces.length = t.pieces.length := by
  obtain ⟨front, last, h⟩ := exists_pieces_eq_concat t
  rw [pieces_crlf h, h]
  simp

theorem bytes_le_bytes_crlf (t : Text) : t.bytes ≤ t.crlf.bytes := by
  induction t with
  | nil => exact Nat.le_refl 0
  | cons c t ih =>
    by_cases hc : c = '\n'
    · subst hc
      rw [crlf_newline, bytes_cons, bytes_cons, bytes_cons]
      omega
    · rw [crlf_cons_of_ne hc, bytes_cons, bytes_cons]
      omega

/-- A carriage return in front of a line feed takes up no place of its own. -/
theorem after_crlf (p : Position) (t : Text) : p.after t.crlf = p.after t := by
  induction t generalizing p with
  | nil => rfl
  | cons c t ih =>
    by_cases hc : c = '\n'
    · subst hc
      rw [crlf_newline, Position.after_cons, Position.after_cons, Position.after_cons, Position.next_newline,
        Position.next_newline, ih, Position.next_of_ne (by decide)]
    · rw [crlf_cons_of_ne hc, Position.after_cons, Position.after_cons, ih]

theorem endPosition_crlf (t : Text) : t.crlf.endPosition = t.endPosition := by
  rw [endPosition_eq, endPosition_eq, after_crlf]

end Text

namespace PublicSection

open Text

variable {t : Text}

theorem linesOf_crlf (t : Text) : linesOf t.crlf = linesOf t := by
  obtain ⟨front, last, h⟩ := exists_pieces_eq_concat t
  rw [linesOf, linesOf, pieces_crlf h, h, List.map_append, List.map_append, List.map_map]
  congr 1
  refine List.map_congr_left fun l _ => ?_
  exact dropEndWhile_append_of_pos (by simp)

/-- A carriage return at the end belongs to no line. -/
theorem linesOf_append_return (t : Text) : linesOf (t ++ ['\r']) = linesOf t := by
  obtain ⟨front, last, h⟩ := exists_pieces_eq_concat t
  rw [linesOf, linesOf, pieces_append h (show pieces ['\r'] = [['\r']] from rfl), h, List.map_append, List.map_append,
    List.map_singleton, List.map_singleton, dropEndWhile_append_of_pos (by simp)]

theorem linesOf_return_newline (t : Text) : linesOf ('\r' :: '\n' :: t) = linesOf ('\n' :: t) := by
  obtain ⟨first, more, h1, h2⟩ := pieces_cons_of_ne (c := '\r') (by decide) ('\n' :: t)
  rw [pieces_newline] at h1
  obtain ⟨rfl, rfl⟩ := List.cons.inj h1
  rw [linesOf, h2, linesOf, pieces_newline]
  rfl

end PublicSection
end Classwright
