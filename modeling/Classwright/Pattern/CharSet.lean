import Classwright.Text.CaseFold
import Classwright.Text.Numeric
import Classwright.Text.Word
/-!
# Sets of characters

A set of characters is given by its turning points. Characters are counted without the code points
of surrogates, so two ranges with nothing but surrogates between them are one, and equal sets have
equal turning points. A set that holds the last character has an odd number of them.
-/
namespace Classwright

/-- The place of a character among all characters. -/
def charRank (c : Char) : Nat := if c.toNat < 0xD800 then c.toNat else c.toNat - 0x800

/-- How many characters there are. -/
def charCount : Nat := 0x10F800

/-- The code point of the character at a place. -/
def codeOfRank (n : Nat) : Nat := if n < 0xD800 then n else n + 0x800

structure CharSet where
  turns : List Nat
deriving DecidableEq

namespace CharSet

def has (s : CharSet) (c : Char) : Bool := turned s.turns (charRank c)

/-! ## Making sets -/

def empty : CharSet := ⟨[]⟩

def all : CharSet := ⟨[0]⟩

def range (first last : Char) : CharSet :=
  if charRank last < charRank first then empty
  else if charRank last + 1 = charCount then ⟨[charRank first]⟩
  else ⟨[charRank first, charRank last + 1]⟩

def one (c : Char) : CharSet := range c c

/-- The characters between turning points that are code points. -/
def ofTurns (turns : List Nat) : CharSet :=
  ⟨(turns.map fun n => if n < 0xE000 then n else n - 0x800).filter (· < charCount)⟩

/-- Put a place in front of turning points that do not come before it. -/
def addPlace (n : Nat) : List Nat → List Nat
  | [] => [n, n + 1]
  | t :: ts =>
    if t = n then t :: ts else if t = n + 1 then n :: ts else n :: (n + 1) :: t :: ts

def ofChars (cs : List Char) : CharSet :=
  ⟨(((cs.map charRank).mergeSort (· ≤ ·)).foldr addPlace []).filter (· < charCount)⟩

/-! ## Boolean operations -/

/-- A place is a turning point when a truth value changes there. -/
def turnIf (n : Nat) (before after : Bool) : List Nat := if before == after then [] else [n]

/-- Turning points of what a Boolean function makes of two sets; `a` and `b` say whether the places
before the next turning points are in the sets. -/
def combineFrom (f : Bool → Bool → Bool) : Bool → Bool → List Nat → List Nat → List Nat
  | _, _, [], [] => []
  | a, b, t :: ts, [] => turnIf t (f a b) (f (!a) b) ++ combineFrom f (!a) b ts []
  | a, b, [], u :: us => turnIf u (f a b) (f a (!b)) ++ combineFrom f a (!b) [] us
  | a, b, t :: ts, u :: us =>
    if t < u then turnIf t (f a b) (f (!a) b) ++ combineFrom f (!a) b ts (u :: us)
    else if u < t then turnIf u (f a b) (f a (!b)) ++ combineFrom f a (!b) (t :: ts) us
    else turnIf t (f a b) (f (!a) (!b)) ++ combineFrom f (!a) (!b) ts us
  termination_by _ _ ts us => ts.length + us.length

/-- What a Boolean function, false for two falsehoods, makes of two sets. -/
def combine (f : Bool → Bool → Bool) (s t : CharSet) : CharSet :=
  ⟨combineFrom f false false s.turns t.turns⟩

def union (s t : CharSet) : CharSet := combine (· || ·) s t

def inter (s t : CharSet) : CharSet := combine (· && ·) s t

/-- The members of the first set that are not in the second. -/
def diff (s t : CharSet) : CharSet := combine (fun a b => a && !b) s t

/-- The members of just one of two sets. -/
def symmDiff (s t : CharSet) : CharSet := combine (· != ·) s t

def complement (s : CharSet) : CharSet :=
  match s.turns with
  | 0 :: ts => ⟨ts⟩
  | ts => ⟨0 :: ts⟩

def allBut (t : Text) : CharSet := (ofChars t).complement

/-- The characters that equal one of the set up to case. -/
def anyCase (s : CharSet) : CharSet :=
  let holds (n : Nat) : Bool := turned s.turns (if n < 0xD800 then n else n - 0x800)
  let targets := (foldPairs.filter fun (n, m) => holds n || holds m).map (·.2)
  let sources := (foldPairs.filter fun (_, m) => targets.contains m).map (·.1)
  s.union (ofChars ((sources ++ targets).map Char.ofNat))

/-- The members below U+0080. -/
def asciiPart (s : CharSet) : CharSet := s.inter (range '\x00' '\x7f')

/-! ## Looking into sets -/

/-- The ranges of places between turning points, with the first and the last of each. -/
def placeRanges : List Nat → List (Nat × Nat)
  | [] => []
  | [t] => [(t, charCount - 1)]
  | t :: u :: ts => (t, u - 1) :: placeRanges ts

/-- The ranges that make up the set. -/
def ranges (s : CharSet) : List (Nat × Nat) := placeRanges s.turns

def only? (s : CharSet) : Option Char :=
  match s.ranges with
  | [(first, last)] => if first = last then some (Char.ofNat (codeOfRank first)) else none
  | _ => none

/-- All members are below U+0080. -/
def isAscii (s : CharSet) : Bool := s.ranges.all (·.2 < 0x80)

/-! ## Named classes -/

def digit : CharSet := (ofTurns decimalTurns).union (range '0' '9')

def space : CharSet :=
  ofTurns [0x9, 0xE, 0x20, 0x21, 0x85, 0x86, 0xA0, 0xA1, 0x1680, 0x1681, 0x2000, 0x200B, 0x2028,
    0x202A, 0x202F, 0x2030, 0x205F, 0x2060, 0x3000, 0x3001]

def word : CharSet := ofTurns wordTurns

def ascii? (name : String) : Option CharSet :=
  let upper := range 'A' 'Z'
  let lower := range 'a' 'z'
  let digits := range '0' '9'
  let letters := union upper lower
  let blank := union (one ' ') (one '\t')
  match name with
  | "alnum" => some (union letters digits)
  | "alpha" => some letters
  | "ascii" => some (range '\x00' '\x7f')
  | "blank" => some blank
  | "cntrl" => some (union (range '\x00' '\x1f') (one '\x7f'))
  | "digit" => some digits
  | "graph" => some (range '!' '~')
  | "lower" => some lower
  | "print" => some (range ' ' '~')
  | "punct" => some (diff (range '!' '~') (union letters digits))
  | "space" => some (union (range '\t' '\x0d') (one ' '))
  | "upper" => some upper
  | "word" => some (union (union letters digits) (one '_'))
  | "xdigit" => some (union digits (union (range 'A' 'F') (range 'a' 'f')))
  | _ => none

end CharSet
end Classwright
