import Classwright.Pattern.CharSet
/-!
# Patterns

A pattern describes texts, and how to choose among them: of several branches the first one is tried
first, and a repetition tries another turn first, or last when it is lazy. Patterns are built by
functions that keep them simple: neighbouring characters are one text, rows and branches are not
nested, and a choice of single characters is a set.
-/
namespace Classwright

/-- A condition on a place between two characters. -/
inductive Anchor where
  | textStart
  | textEnd
  | lineStart
  | lineEnd
  /-- Starts and ends of lines that end with a line feed, a carriage return, or both. -/
  | returnLineStart
  | returnLineEnd
  | wordEdge
  | noWordEdge
  | wordStart
  | wordEnd
  /-- No character of a word is in front. -/
  | wordStartHalf
  /-- No character of a word is behind. -/
  | wordEndHalf
deriving DecidableEq

/-- The condition depends on which characters make up words. -/
def Anchor.needsWords : Anchor → Bool
  | wordEdge | noWordEdge | wordStart | wordEnd | wordStartHalf | wordEndHalf => true
  | _ => false

inductive Pattern where
  /-- The empty text. -/
  | empty
  /-- A text of at least one character. -/
  | literal (t : Text)
  /-- One character of a set. -/
  | set (s : CharSet)
  /-- The empty text at a place with a property; words may be made of ASCII alone. -/
  | anchor (a : Anchor) (asciiWords : Bool)
  /-- What the part matches is remembered under a number. -/
  | group (number : Nat) (p : Pattern)
  /-- Turns that have to be made, and the most that may be made. -/
  | rep (p : Pattern) (least : Nat) (most : Option Nat) (greedy : Bool)
  /-- Patterns in a row. -/
  | row (ps : List Pattern)
  /-- Branches, the first one first. -/
  | choice (ps : List Pattern)

namespace Pattern

/-! ## Equality -/

mutual

def same : Pattern → Pattern → Bool
  | empty, empty => true
  | literal t, literal u => t == u
  | set s, set t => s == t
  | anchor a asciiA, anchor b asciiB => a == b && asciiA == asciiB
  | group n p, group m q => n == m && same p q
  | rep p least most greedy, rep q least' most' greedy' =>
    least == least' && most == most' && greedy == greedy' && same p q
  | row ps, row qs => sameAll ps qs
  | choice ps, choice qs => sameAll ps qs
  | _, _ => false

def sameAll : List Pattern → List Pattern → Bool
  | [], [] => true
  | p :: ps, q :: qs => same p q && sameAll ps qs
  | _, _ => false

end

/-! ## Lengths in bytes -/

def sumLengths (ls : List (Option Nat)) : Option Nat :=
  ls.foldl (fun sum l => do return (← sum) + (← l)) (some 0)

/-- A length of several chosen by `f`, if all are known. -/
def pickLength (f : Nat → Nat → Nat) : List (Option Nat) → Option Nat
  | [] => none
  | l :: ls => ls.foldl (fun best l => do return f (← best) (← l)) l

/-- How many bytes the character at a place takes. -/
def bytesAt (rank : Nat) : Nat := (Char.ofNat (codeOfRank rank)).utf8Size

mutual

/-- The least number of bytes of a match; none when nothing can match. -/
def leastBytes? : Pattern → Option Nat
  | empty => some 0
  | literal t => some t.bytes
  | set s => s.ranges.head?.map fun r => bytesAt r.1
  | anchor _ _ => some 0
  | group _ p => leastBytes? p
  | rep p least _ _ => (leastBytes? p).map (· * least)
  | row ps => sumLengths (leastBytesEach ps)
  | choice ps => pickLength min (leastBytesEach ps)

def leastBytesEach : List Pattern → List (Option Nat)
  | [] => []
  | p :: ps => leastBytes? p :: leastBytesEach ps

end

mutual

/-- The largest number of bytes of a match, if there is one. -/
def mostBytes? : Pattern → Option Nat
  | empty => some 0
  | literal t => some t.bytes
  | set s => s.ranges.getLast?.map fun r => bytesAt r.2
  | anchor _ _ => some 0
  | group _ p => mostBytes? p
  | rep p _ most _ => do return (← most) * (← mostBytes? p)
  | row ps => sumLengths (mostBytesEach ps)
  | choice ps => pickLength max (mostBytesEach ps)

def mostBytesEach : List Pattern → List (Option Nat)
  | [] => []
  | p :: ps => mostBytes? p :: mostBytesEach ps

end

/-- Every match has a character. -/
def eats (p : Pattern) : Bool := (leastBytes? p).any (0 < ·)

/-- Every match is empty. -/
def eatsNothing (p : Pattern) : Bool := mostBytes? p == some 0

/-! ## Conditions at the ends -/

mutual

/-- At the start of every match, or at its end, there is a condition. -/
def demands (a : Anchor) (atEnd : Bool) : Pattern → Bool
  | anchor b _ => b == a
  | group _ p => demands a atEnd p
  | rep p least _ _ => least ≠ 0 && demands a atEnd p
  | row ps => if atEnd then lastDemands a ps else firstDemands a ps
  | choice ps => allDemand a atEnd ps
  | empty | literal _ | set _ => false

/-- The condition is in a row, and nothing is eaten in front of it. -/
def firstDemands (a : Anchor) : List Pattern → Bool
  | [] => false
  | p :: ps => demands a false p || eatsNothing p && firstDemands a ps

/-- The condition is in a row, and nothing is eaten behind it. -/
def lastDemands (a : Anchor) : List Pattern → Bool
  | [] => false
  | p :: ps => lastDemands a ps || ps.all eatsNothing && demands a true p

def allDemand (a : Anchor) (atEnd : Bool) : List Pattern → Bool
  | [] => true
  | p :: ps => demands a atEnd p && allDemand a atEnd ps

end

/-! ## Simple patterns -/

def ofText (t : Text) : Pattern := if t.isEmpty then empty else literal t

def ofSet (s : CharSet) : Pattern :=
  match s.only? with
  | some c => literal [c]
  | none => set s

/-- Put a part in front of a row without empty parts. -/
def consPart : Pattern → List Pattern → List Pattern
  | empty, ps => ps
  | literal t, literal u :: ps => literal (t ++ u) :: ps
  | p, ps => p :: ps

def parts : Pattern → List Pattern
  | row ps => ps
  | p => [p]

/-- Patterns in a row. -/
def ofParts (ps : List Pattern) : Pattern :=
  match (ps.flatMap parts).foldr consPart [] with
  | [] => empty
  | [p] => p
  | ps => row ps

def branches : Pattern → List Pattern
  | choice ps => ps
  | p => [p]

/-- The character of a pattern that matches just one. -/
def character? : Pattern → Option Char
  | literal [c] => some c
  | _ => none

def set? : Pattern → Option CharSet
  | set s => some s
  | _ => none

/-- The set of all branches, when each is a character or each is a set. -/
def branchSet? (ps : List Pattern) : Option CharSet :=
  match ps.mapM character?, ps.mapM set? with
  | some cs, _ => some (.ofChars cs)
  | none, some ss => some (ss.foldl .union .empty)
  | none, none => none

/-- How many parts two rows begin with in common. -/
def commonLength : List Pattern → List Pattern → Nat
  | p :: ps, q :: qs => if same p q then commonLength ps qs + 1 else 0
  | _, _ => 0

def row? : Pattern → Option (List Pattern)
  | row ps => some ps
  | _ => none

/-- How many parts all branches begin with in common, when all are rows. -/
def commonParts (ps : List Pattern) : Nat :=
  match ps.mapM row? with
  | some (first :: rest) => (rest.map (commonLength first)).foldl min first.length
  | _ => 0

/-- Branches, none of which is a choice. -/
def ofFlatBranches (ps : List Pattern) : Pattern :=
  match ps with
  | [] => set .empty
  | [p] => p
  | ps =>
    match branchSet? ps with
    | some s => ofSet s
    | none => choice ps

/-- Alternatives, the first one first. What all begin with in common is put in front. -/
def ofBranches (ps : List Pattern) : Pattern :=
  let ps := ps.flatMap branches
  let n := commonParts ps
  if ps.length < 2 ∨ n = 0 then ofFlatBranches ps
  else
    let front := (ps.head?.map parts).getD []
    let ends := ps.map fun p => ofParts ((parts p).drop n)
    ofParts (front.take n ++ [ofFlatBranches (ends.flatMap branches)])

/-- Turns of a pattern. Turns that are empty need not be made more than once. -/
def ofTurns (p : Pattern) (least : Nat) (most : Option Nat) (greedy : Bool) : Pattern :=
  let (least, most) :=
    if p.eatsNothing then (min least 1, some (min (most.getD 1) 1)) else (least, most)
  if most = some 0 then empty
  else if least = 1 ∧ most = some 1 then p
  else rep p least most greedy

end Pattern
end Classwright
