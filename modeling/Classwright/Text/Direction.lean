import Classwright.Text.Table
/-!
# Writing direction

How a character behaves where scripts of both directions meet.
-/
namespace Classwright

inductive Direction where
  | left
  | right
  | arabic
  | arabicNumber
  | number
  | numberSign
  | numberSeparator
  | numberEnd
  | neutral
  | boundary
  | mark
  | other
deriving DecidableEq

/-- Directions from points on: each point begins where the last one ends. The numbers stand for the
directions in their order. -/
def directionRows : String :=
  "A1 8, 1 7, 4 8, A 7, 6 8, 29 0, 18 8, 1 0, 1C1 8, 2 0, 7 8, E 0, 2 8, 1C 0, 1 8, 11 A, 71 0, 4
  8, 2 0, 7F 8, 2 0, 8B A, 8 0, FF 8, 5 7, 2 A, 2D 1, 1 A, 1 1, 1 A, 2 1, 1 A, 2 1, 1 A, 9 1, 36
  8, 2 2, 1 7, 2 2, 1 6, 1 2, 1 8, 2 A, B 2, 30 A, 15 3, A 7, 1 3, 2 2, 3 A, 1 2, 65 A, 8 8, 1 A,
  6 2, 2 A, 2 8, 1 A, 4 2, 2 4, A 2, 17 A, 1 2, 1E A, 1D 2, 59 A, B 2, F 1, 2B A, 9 1, 2 8, 4 1,
  3 A, 1 1, 18 A, 4 1, 1 A, 9 1, 1 A, 3 1, 1 A, 7 1, 29 A, 5 1, 2 2, 37 A, 9 2, 2A A, 39 0, 37 A,
  1 0, 1 A, 1 0, 4 A, 8 0, 4 A, 1 0, 3 A, F 0, 2 A, 2 0, 1D A, 1 0, 3A A, 1 0, 4 A, 6 0, 6 A, 1
  0, 14 A, 4 0, C 7, 2 0, 7 7, 1 0, 2 A, 5 0, 39 A, 2 0, 3 A, 1B 0, 14 A, 2 0, 3 A, 1 0, B A, 2
  0, 39 A, 1 0, 4 A, 8 0, 4 A, 3 0, 12 A, 4 0, B 7, 8 0, 1 A, 8 0, 3A A, 1 0, 2 A, 1 0, 1 A, 6 0,
  6 A, A 0, B A, 4 0, 1C A, 1 0, 3D A, 1 0, C A, 3 0, 23 8, 6 7, 1 8, 6 A, 1 0, 3 A, 1 0, 37 A, 1
  0, 1 A, 3 0, 5 A, 12 0, A A, 4 0, 12 8, 7 0, 2 A, 1 0, 3A A, 1 0, F A, 9 0, D A, 4 0, 1A A, 2
  0, 39 A, 2 0, 4 A, 5 0, 7 A, 1 0, 14 A, 4 0, 1B A, 1 0, 48 A, 5 0, 3 A, 6 0, 59 A, 1 0, 2 A, B
  7, 1 0, 7 A, 8 0, 62 A, 1 0, 2 A, 9 0, B A, 8 0, 48 A, 2 0, 1B A, 1 0, 1 A, 1 0, 1 A, 1 8, 4 0,
  33 A, E 0, 1 A, 5 0, 1 A, 2 0, 5 A, 31 0, 8 A, 1 0, 66 A, 4 0, 1 A, 6 0, 1 A, 2 0, 2 A, 2 0, 19
  A, 2 0, 4 A, 3 0, 10 A, 4 0, D A, 1 0, 2 A, 2 0, 6 A, 1 0, F A, 1 0, 2BF A, 3 0, 30 8, 10 0, 60
  8, 1 0, 29A 8, 5 0, 72 A, 3 0, 1D A, 2 0, 1E A, E 0, 12 A, E 0, 37 A, 7 0, 8 A, 1 0, 2 A, B 0,
  7 7, 1 0, 1 A, 3 0, 10 8, 20 0, 75 A, 2 0, 22 A, 1 0, 76 A, 3 0, 4 A, 2 0, 9 A, 1 0, 6 A, 7 8,
  6 0, 98 8, 22 0, 17 A, 2 0, 2 A, 3 0, 38 A, 1 0, 1 A, 9 0, 1 A, 1 0, 2 A, 8 0, 6 A, D 0, 30 A,
  54 0, 30 A, 1 0, 1 A, 5 0, 1 A, 1 0, 5 A, 1 0, B 8, 2 0, 1B A, 9 0, B 8, 1 A, 2 0, 20 A, 4 0, 2
  A, 2 0, 1 A, 3 0, 38 A, 1 0, 1 A, 2 0, 3 A, 1 0, 1 A, 3 0, 3A A, 8 0, 2 A, 5 0, 95 A, 3 0, 1 A,
  D 0, 1 A, 7 0, 4 A, 1 0, 6 A, 1 0, 3 A, 2 0, C6 A, 41 0, 20B 9, 4 8, 20 7, 5 8, F 6, 1 8, 5B 7,
  30 A, 34 8, 2A 7, C 8, 14 0, 3C 8, 88 5, 1 7, 1 8, 122 0, 45 8, 1A 0, 1 8, 316 0, 1 8, 153 0,
  100 8, 330 0, B5 8, 7 0, 3 A, 4 0, 6 8, 7 0, 7F A, 1 0, 60 A, 20 8, 205 0, 3 8, 19 0, 9 A, 4 0,
  2 8, 1 0, 6 8, 4 0, 2 8, 4 0, 58 A, 4 0, 3 8, 1 0, 5A 8, 1 0, C4 8, 30 0, 1BD0 8, 40 0, 5690 8,
  40 0, 13D 8, 3 0, 5F A, 4 8, 1 A, A 8, 3 0, 1D A, 2 0, 50 A, 2 0, E 8, 23 0, 65 8, 1 0, 79 A, 1
  0, 3 A, 1 0, 4 A, 1 0, 19 A, 2 0, 1 8, 4 A, 4 0, 8 7, 8 0, 34 8, C 0, 44 A, A 0, 12 A, 12 0, D
  A, 1 0, 26 A, 8 0, 19 A, B 0, 2E A, 3 0, 30 A, 1 0, 2 A, 4 0, 2 A, 2 0, 27 A, 1 0, 43 A, 6 0, 2
  A, 2 0, 2 A, B 0, 3 A, 1 0, 8 A, 1 0, 2F A, 1 0, 33 A, 1 0, 1 A, 3 0, 2 A, 2 0, 5 A, 2 0, 1 A,
  1 0, 2A A, 2 0, 8 A, B 0, 69 8, 56 0, 25 A, 1 0, 2 A, 1 0, 4 A, 3 0, 4F2E A, 94 2, 11 8, 25D A,
  25 8, 2E 2, 18D 0, 101 8, 1 0, 3E 8, 4D 0, 3 8, 40 0, 2D A, 83 0, 60 A, 1 4, 1F 0, 76 A, A 0,
  480 1, 11F 8, 1 1, E1 A, F 1, 28 A, 8 1, A5 A, 6 1, 4E 8, 7 1, 1C0 2, 24 A, C 3, 10 1, 29 A, 5
  8, 1 1, F1 3, 20 1, 2B A, 2 1, 15 2, E 8, 2A A, 6 1, 30 2, 16 A, B 2, 1F 1, 12 A, 4 1, 7A 0, 1
  A, 1 0, 36 A, F 0, B 8, 14 0, A A, 1 0, 2 A, 2 0, A A, 3 0, 31 A, 4 0, 2 A, 2 0, 7 A, E 0, 30
  A, 3 0, 24 A, 5 0, 1 A, 9 0, 3D A, 1 0, C A, 2 0, 34 A, 9 0, A A, 4 0, 2 A, 1 0, 5F A, 3 0, 2
  A, 1 0, 1 A, 2 0, 6 A, 1 0, 2 A, 3F 0, 5F A, 1 0, 3 A, D 0, 10 A, 2 0, 39 A, 2 0, 3 A, 1 0, 25
  A, 1A 0, 3B A, 7 0, C A, 1 0, 1 A, 1 0, 1 A, 1 0, E A, 1F 0, 38 A, 8 0, 2 A, 3 0, 1 A, 1 0, 17
  A, 1 0, 54 A, 6 0, 1 A, 1 0, 4 A, 2 0, 1 A, 2 0, EE A, 6 0, 4 A, 2 0, 1 A, 2 0, 1B A, 24 0, 33
  A, 8 0, 2 A, 1 0, 1 A, 2 0, 1F 8, 20 0, 2B A, 1 0, 1 A, 1 0, 2 A, 6 0, 1 A, 1 0, 65 A, 3 0, 2
  A, 4 0, 1 A, 9 0, FF A, 9 0, 1 A, 2 0, 100 A, 2 0, 1 A, 1 0, 4 A, 1 0, 90 A, 8 0, 4 A, 1 0, 20
  A, 6 0, 2 A, 2 0, 28 A, 6 0, 2 A, 4 0, 8 A, 9 0, 1 A, 6 0, 2 A, 3 0, 2E A, D 0, 1 A, 2 0, C6 A,
  1 0, 1 A, 3 0, 1 A, 1 0, C9 A, E 0, 54 A, 17 0, 1 A, 7 0, 1 A, 2 0, 1 A, 4B 0, 31 A, 15 0, 1 A,
  9 0, 40 A, 3 0, 2 A, 1 0, 1 A, 1 0, 15B A, 2 0, B A, 2 0, 34 A, 8 0, 2 A, 1 0, 1 A, 1 0, 17 A,
  56 0, 25 8, 8 7, 4 8, 1E 0, 1441 A, 1 0, 6 A, 19 0, 2CBE A, C 0, 3 A, 3 0, 9C0 A, 5 0, 3B A, 7
  0, 418 A, 1 0, 3F A, 4 0, 4F 8, 1 0, 1 A, C 0, 4CAD A, 2 0, F61 8, 300 A, 50 0, 217 A, 3 0, 11
  A, 8 0, 2 A, 7 0, 1E A, 4 0, 3B 8, 59 A, 3 8, 7B 0, 40 8, 60 0, 6A0 A, 37 0, 4 A, 32 0, 8 A, 1
  0, E A, 1 0, 16 A, 465 0, 100 A, 100 0, 30 A, 7 0, 177 A, 12 0, 2C A, 4 0, F 7, 1D1 0, 1C A, 4
  0, FE A, 2 0, F3 A, 1 0, 2 A, 1 0, 7 A, 2 0, 5 A, 9 0, 102 1, D0 A, 52 1, 22 A, 7 1, 326 2, 27F
  8, 260 0, 1D 8, 3 0, 3D 8, 39 0, 7A 8, DA0 0"

/-- The points at which the direction changes. -/
def directions : List (Nat × List Nat) := Table.placedRows directionRows

def Direction.ofNumber : Nat → Direction
  | 0 => .left
  | 1 => .right
  | 2 => .arabic
  | 3 => .arabicNumber
  | 4 => .number
  | 5 => .numberSign
  | 6 => .numberSeparator
  | 7 => .numberEnd
  | 8 => .neutral
  | 9 => .boundary
  | 10 => .mark
  | _ => .other

def direction (c : Char) : Direction :=
  if c.isAlpha then .left
  else if c.isDigit then .number
  else if c == '+' || c == '-' then .numberSign
  else if c == ',' || c == '.' || c == '/' || c == ':' then .numberSeparator
  else if c == '#' || c == '$' || c == '%' then .numberEnd
  else if c.toNat < 0x80 then .neutral
  else match (directions.takeWhile (·.1 ≤ c.toNat)).getLast? with
    | some (_, [n]) => .ofNumber n
    | _ => .left

/-! ## Cursive joining

Letters of cursive scripts join their neighbours on one side or on both. -/

/-- How a character joins its neighbours. -/
inductive Joining where
  | bothSides
  | leftSide
  | rightSide
  /-- The neighbours are joined as if the character were not there. -/
  | transparent
  | none
deriving DecidableEq

/-- Runs of characters that join: where each begins, how many follow, and the number of the kind. -/
def joiningRows : String :=
  "AD 0 3, 253 6F 3, 183 6 3, 10E 2C 3, 2E 0 3, 2 1 3, 3 1 3, 3 0 3, 49 A 3, C 0 3, 4 0 0, 2 3 2,
  4 0 0, 1 0 2, 1 0 0, 1 0 2, 1 4 0, 5 3 2, 4 C 0, E 6 0, 7 0 2, 1 1 0, 2 14 3, 23 1 0, 2 0 3, 1
  2 2, 4 2 2, 3 F 0, 10 11 2, 12 25 0, 26 0 2, 1 1 0, 2 8 2, 9 0 0, 1 0 2, 1 0 0, 1 0 2, 1 1 0, 2
  1 2, 3 0 2, 1 6 3, 9 5 3, 8 1 3, 3 3 3, 4 1 2, C 2 0, 5 0 0, 10 0 3, 1 0 2, 1 0 3, 1 2 0, 3 4
  2, 5 3 0, 4 0 2, 1 8 0, 9 0 2, 1 0 0, 1 0 2, 1 0 0, 1 0 2, 1 1 0, 2 0 2, 1 1A 3, 1D 0 2, 1 A 0,
  B 2 2, 3 E 0, F 1 2, 2 3 0, 4 0 2, 1 0 0, 1 1 2, 2 2 0, 3 1 2, 2 5 0, 2C A 3, 24 20 0, 21 8 3,
  12 0 3, 19 3 3, 5 8 3, A 2 3, 4 4 3, 17 0 2, 1 4 0, 5 1 2, 2 0 0, 1 0 2, 1 9 0, A 0 2, 1 0 0, 1
  2 2, 3 2 3, 7 0 0, 2 3 0, 5 0 2, 1 0 0, 1 1 2, 7 12 2, 16 0 0, 3 4 0, 5 0 2, 1 0 0, 8 8 3, 9 9
  0, A 2 2, 4 0 2, 1 1 0, 2 1 2, 2 5 0, 6 0 2, 1 E 0, 10 17 3, 19 1F 3, 57 0 3, 2 0 3, 5 7 3, C 0
  3, 4 6 3, 11 1 3, 1F 0 3, 3B 0 3, 5 3 3, C 0 3, 15 1 3, 1C 0 3, 3 1 3, 3B 0 3, 5 1 3, 6 1 3, 4
  2 3, 6 0 3, 1F 1 3, 5 0 3, C 1 3, 3B 0 3, 5 4 3, 6 1 3, 6 0 3, 15 1 3, 18 5 3, 7 0 3, 3B 0 3, 3
  0 3, 2 3 3, C 0 3, 8 1 3, D 1 3, 20 0 3, 3E 0 3, D 0 3, 33 0 3, 4 0 3, 38 0 3, 2 2 3, 8 2 3, 4
  3 3, B 1 3, D 1 3, 1F 0 3, 3B 0 3, 3 0 3, 7 0 3, 6 1 3, 16 1 3, 1E 1 3, 3B 1 3, 6 3 3, C 0 3,
  15 1 3, 1F 0 3, 49 0 3, 8 2 3, 4 0 3, 5B 0 3, 3 6 3, 13 7 3, 6A 0 3, 3 8 3, 14 6 3, 50 1 3, 1D
  0 3, 2 0 3, 2 0 3, 38 D 3, F 4 3, 6 1 3, 7 A 3, C 23 3, 2D 0 3, 67 3 3, 5 5 3, 7 1 3, 4 1 3, 1B
  1 3, 6 2 3, 13 3 3, 11 0 3, 3 1 3, 8 0 3, 10 0 3, 2C0 2 3, 3B5 2 3, 20 1 3, 20 1 3, 20 1 3, 42
  1 3, 3 6 3, F 0 3, 3 A 3, 14 0 3, 2A 0 0, 4 2 3, 4 0 3, 11 58 0, 65 1 3, 2 21 0, 22 0 3, 1 0 0,
  76 2 3, 7 1 3, B 0 3, 7 2 3, DE 1 3, 4 0 3, 3B 0 3, 2 6 3, 8 0 3, 2 0 3, 3 7 3, E 9 3, C 0 3,
  31 2D 3, 30 B 3, 20 3 3, 34 0 3, 2 4 3, 6 0 3, 6 0 3, 29 8 3, 15 1 3, 22 3 3, 6 1 3, 3 2 3, 3B
  0 3, 2 1 3, 5 0 3, 2 2 3, 3D 7 3, A 1 3, 9A 2 3, 4 C 3, E 6 3, B 0 3, 7 0 3, 4 1 3, C8 3F 3,
  24B 0 3, 3 1 3, 1C 4 3, 36 4 3, A 5 3, 66 20 3, C1F 2 3, 90 0 3, 61 1F 3, 24A 3 3, 6F 1 3, 75D6
  3 3, 5 9 3, 2A 1 3, 52 1 3, 112 0 3, 4 0 3, 5 0 3, 1A 1 3, 7 0 3, 14 31 0, 32 0 1, 52 1 3, 1C
  11 3, 1F 0 3, 27 7 3, 21 A 3, 39 2 3, 33 0 3, 3 3 3, 6 1 3, 29 0 3, 44 5 3, 8 1 3, 4 1 3, E 0
  3, 9 0 3, 30 0 3, 34 0 3, 2 2 3, 5 1 3, 7 1 3, 3 0 3, 2B 1 3, A 0 3, EF 0 3, 3 0 3, 5 0 3, 4F31
  0 3, 2E2 F 3, 20 F 3, DF 0 3, FA 2 3, 204 0 3, E3 0 3, 96 4 3, 68B 2 3, 4 1 3, 7 3 3, 2C 2 3, 7
  0 3, 81 4 0, 5 0 2, 2 0 2, 2 1 2, 4 0 1, 1 4 2, 5 3 0, 4 0 1, 1 4 0, 5 0 2, 1 2 0, 3 0 2, 3 0
  2, 1 1 3, 6 3 0, 4 0 2, 91 0 0, 1 0 2, 1 0 0, 1 2 2, 3 2 0, 3 0 2, 1 1 0, 2 0 2, 1 0 0, 1 1 2,
  2 0 0, 1 0 2, 18 3 2, 4 1 0, 153 0 1, 1 20 0, 21 0 2, 1 0 0, 1 3 3, 45 4 3, 142 1 3, 17 0 2, 1
  1 0, 3 1 0, 34 5 3, 36 2 0, 3 0 2, 1 10 0, 12 A 3, B 2 0, 3 0 2, 1C 3 0, 4 1 2, 2 B 0, C 3 3,
  2E 0 0, 2 1 0, 2 2 2, 4 0 0, 1 1 2, 2 1 0, 2 0 2, 1 1 0, 3 0 0, 1 1 2, 2 0 0, 5 0 2, 1 0 0, 1 0
  1, 36 0 3, 37 E 3, 38 0 3, 3 1 3, C 2 3, 34 3 3, 6 1 3, 9 0 3, 3E 2 3, 27 4 3, 6 7 3, 46 0 3, D
  1 3, 36 8 3, 13 3 3, 6 0 3, 60 2 3, 5 0 3, 2 1 3, 8 0 3, 3 0 3, 9E 0 3, 4 7 3, 1D 1 3, 3B 1 3,
  5 0 3, 26 6 3, A 4 3, 4B 5 3, 13 0 3, 2 0 3, 2 0 3, F 1 3, 57 7 3, A 2 3, 4 0 3, 18 0 3, 55 5
  3, 7 0 3, 5 1 3, 3 1 3, F0 3 3, A 1 3, 3 1 3, 1D 1 3, 57 7 3, A 0 3, 2 1 3, 6C 0 3, 2 0 3, 3 5
  3, 7 0 3, 66 0 3, 2 0 3, 3 3 3, 5 4 3, 108 8 3, A 1 3, 102 1 3, 3 0 3, 5 0 3, 91 3 3, 6 1 3, 6
  0 3, 21 9 3, 32 5 3, 8 3 3, C 0 3, A 5 3, 8 2 3, 31 C 3, E 1 3, C8 0 3, 2 2 3, 4 0 3, CA 6 3, 8
  5 3, 7 0 3, 53 15 3, 18 6 3, 8 1 3, 3 1 3, 7C 5 3, 9 0 3, 2 1 3, 3 6 3, 8 0 3, 49 1 3, 5 0 3, 2
  0 3, 15C 1 3, D 1 3, 36 4 3, A 0 3, 2 0 3, 18 0 3, 14D6 10 3, 17 E 3, 2CD7 B 3, F 2 3, 9C3 4 3,
  40 6 3, 41F 0 3, 40 3 3, 55 0 3, 4CB9 1 3, 3 3 3, 1260 2D 3, 30 16 3, 237 2 3, C F 3, 12 6 3,
  25 3 3, 98 2 3, 7BE 36 3, 3B 31 3, 3A 0 3, F 0 3, 17 4 3, 6 E 3, 55F 6 3, 8 10 3, 13 6 3, 8 1
  3, 3 4 3, 69 0 3, A1 6 3, 17E 0 3, 3E 3 3, 200 3 3, 102 1 3, F5 0 3, 3 0 3, 8 1 3, 7 0 3, 1DB 6
  3, 30 43 0, 44 7 3, C16BD 0 3, 1F 5F 3, E0 EF 3"

/-- The runs of characters that join. -/
def joinings : List (Nat × List Nat) := Table.placedRows joiningRows

def joining (c : Char) : Joining :=
  match Table.runValue? joinings c.toNat with
  | some 0 => .bothSides
  | some 1 => .leftSide
  | some 2 => .rightSide
  | some _ => .transparent
  | none => .none

end Classwright
