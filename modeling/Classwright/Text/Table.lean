import Classwright.Number.Digits
import Classwright.Text.Basic
/-!
# Tables of characters as text

The larger tables of the character standard are written as text. A row is a run of hexadecimal
numbers, and rows are divided by commas. The first number of a row is the distance from where the
row before it begins, so neighbouring rows stay short.
-/
namespace Classwright.Table

/-- Hexadecimal numbers between other characters; `n` is the one that is being read. -/
def numbersFrom : Option Nat → Text → List Nat
  | n, [] => n.toList
  | n, c :: rest =>
    match hexValue? c, n with
    | some d, _ => numbersFrom (some (n.getD 0 * 16 + d)) rest
    | none, some n => n :: numbersFrom none rest
    | none, none => numbersFrom none rest

def numbers (t : Text) : List Nat := numbersFrom none t

/-- Points from the distances between them. -/
def pointsFrom : Nat → List Nat → List Nat
  | _, [] => []
  | start, gap :: gaps => (start + gap) :: pointsFrom (start + gap) gaps

/-- Turning points that are written as distances. -/
def turns (table : String) : List Nat := pointsFrom 0 (numbers table)

/-- Rows with the points where they begin. -/
def placeFrom : Nat → List (List Nat) → List (Nat × List Nat)
  | _, [] => []
  | start, [] :: rows => placeFrom start rows
  | start, (gap :: values) :: rows => (start + gap, values) :: placeFrom (start + gap) rows

def placedRows (table : String) : List (Nat × List Nat) :=
  placeFrom 0 ((Text.splitOn ',' table.toList).map numbers)

/-- Where the value begins or ceases to have a property, in rows that hold the value from a point
on; `inside` says whether the value in front has it. -/
def turnsWhere (p : Nat → Bool) : Bool → List (Nat × List Nat) → List Nat
  | _, [] => []
  | inside, (start, values) :: rows =>
    if values.any p == inside then turnsWhere p inside rows
    else start :: turnsWhere p (!inside) rows

/-- The value at a point, in rows that hold how many points follow the first one and a value. -/
def runValue? (rows : List (Nat × List Nat)) (n : Nat) : Option Nat :=
  rows.findSome? fun
    | (first, [more, value]) => if first ≤ n ∧ n ≤ first + more then some value else none
    | _ => none

end Classwright.Table
