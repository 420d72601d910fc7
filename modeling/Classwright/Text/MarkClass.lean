import Classwright.Text.Table
/-!
# Combining classes

Marks behind a letter have a class. Marks of different classes do not touch each other, so their
order does not matter, and in the normal order the lower class comes first.
-/
namespace Classwright

/-- Runs of marks: where each begins, how many follow, and their class. -/
def markClassRows : String :=
  "300 14 E6, 15 0 E8, 1 3 DC, 4 0 E8, 1 0 D8, 1 4 DC, 5 1 CA, 2 3 DC, 4 1 CA, 2 A DC, B 4 1, 5 3
  DC, 4 7 E6, 8 0 F0, 1 0 E6, 1 2 DC, 3 2 E6, 3 1 DC, 3 2 E6, 3 3 DC, 4 0 E6, 1 0 E8, 1 1 DC, 2 0
  E6, 1 0 E9, 1 1 EA, 2 0 E9, 1 1 EA, 2 0 E9, 1 C E6, 120 4 E6, 10E 0 DC, 1 3 E6, 4 0 DC, 1 2 E6,
  3 0 DE, 1 0 DC, 1 5 E6, 6 5 DC, 6 1 E6, 2 0 DC, 1 1 E6, 2 0 DE, 1 0 E4, 1 0 E6, 1 0 A, 1 0 B, 1
  0 C, 1 0 D, 1 0 E, 1 0 F, 1 0 10, 1 0 11, 1 0 12, 1 1 13, 2 0 14, 1 0 15, 1 0 16, 2 0 17, 2 0
  18, 1 0 19, 2 0 E6, 1 0 DC, 2 0 12, 49 7 E6, 8 0 1E, 1 0 1F, 1 0 20, 31 0 1B, 1 0 1C, 1 0 1D, 1
  0 1E, 1 0 1F, 1 0 20, 1 0 21, 1 0 22, 1 1 E6, 2 1 DC, 2 4 E6, 5 0 DC, 1 1 E6, 2 0 DC, 11 0 23,
  66 6 E6, 9 3 E6, 4 0 DC, 1 0 E6, 3 1 E6, 3 0 DC, 1 1 E6, 2 0 DC, 24 0 24, 1F 0 E6, 1 0 DC, 1 1
  E6, 2 0 DC, 1 1 E6, 2 2 DC, 3 0 E6, 1 1 DC, 2 0 E6, 1 0 DC, 1 2 E6, 3 0 DC, 1 0 E6, 1 0 DC, 1 0
  E6, 1 0 DC, 1 0 E6, 1 0 DC, 1 1 E6, A2 6 E6, 7 0 DC, 1 0 E6, A 0 DC, 19 3 E6, 5 8 E6, A 2 E6, 4
  4 E6, 30 2 DC, 3E 1 E6, 2 2 DC, 3 3 E6, 2E 4 E6, 5 4 DC, 5 D E6, F 0 DC, 1 1 E6, 2 0 DC, 1 1
  E6, 2 0 DC, 1 2 E6, 3 2 DC, 3 0 1B, 1 0 1C, 1 0 1D, 1 2 E6, 3 0 DC, 1 1 E6, 2 1 DC, 2 4 E6, 41
  0 7, 11 0 9, 4 0 E6, 1 0 DC, 1 1 E6, 69 0 7, 11 0 9, 31 0 E6, 3E 0 7, 11 0 9, 6F 0 7, 11 0 9,
  6F 0 7, 11 0 9, 80 0 9, 6F 0 7, 11 0 9, 8 0 54, 1 0 5B, 66 0 7, 11 0 9, 6E 1 9, 12 0 9, 7D 0 9,
  6E 1 67, 2 0 9, E 3 6B, 70 1 76, 2 0 9, E 3 7A, 50 1 DC, 1D 0 DC, 2 0 DC, 2 0 D8, 38 0 81, 1 0
  82, 2 0 84, 6 3 82, 6 0 82, 2 1 E6, 2 0 9, 2 1 E6, 40 0 DC, 71 0 7, 2 1 9, 54 0 DC, 2D0 2 E6,
  3B7 1 9, 20 0 9, 9E 0 9, B 0 E6, CC 0 E4, 90 0 DE, 1 0 E6, 1 0 DC, DC 0 E6, 1 0 DC, 48 0 9, 15
  7 E6, A 0 DC, 31 4 E6, 5 5 DC, 6 1 E6, 2 0 DC, 2 1 DC, 2 1 E6, 2 1 DC, 2 4 E6, 5 0 DC, 1 11 E6,
  12 0 DC, 3 5 E6, 6 0 DC, 1 3 E6, 4 0 EA, 49 0 7, 10 0 9, 27 0 E6, 1 0 DC, 1 6 E6, 3D 1 9, 3C 0
  7, C 1 9, 45 0 7, 99 2 E6, 4 0 1, 1 4 DC, 5 1 E6, 2 3 DC, 4 0 E6, 2 6 1, B 0 DC, 7 0 E6, 4 1
  E6, C8 1 E6, 2 0 DC, 1 6 E6, 7 0 DC, 1 1 E6, 2 0 EA, 1 0 D6, 1 0 DC, 1 0 CA, 1 24 E6, 25 0 E8,
  1 1 E4, 2 0 DC, 1 0 DA, 1 0 E6, 1 0 E9, 1 0 DC, 1 0 E6, 1 0 DC, 2D1 1 E6, 2 1 1, 2 3 E6, 4 2 1,
  3 1 E6, 6 0 E6, 4 1 1, 2 0 E6, 1 0 DC, 1 0 E6, 1 1 1, 2 3 DC, 4 0 E6, BFF 2 E6, 90 0 9, 61 1F
  E6, 24A 0 DA, 1 0 E4, 1 0 E8, 1 0 DE, 1 1 E0, 6B 1 8, 75D6 0 E6, 5 9 E6, 2A 1 E6, 52 1 E6, 116
  0 9, 26 0 9, 98 0 9, 1C 11 E6, 4B 2 DC, 28 0 9, 60 0 7, D 0 9, F0 0 E6, 2 1 E6, 2 0 DC, 3 1 E6,
  7 1 E6, 3 0 E6, 35 0 9, F7 0 9, 4F31 0 1A, 302 6 E6, 7 6 DC, 7 1 E6, 3CF 0 DC, E3 0 DC, 96 4
  E6, 697 0 DC, 2 0 E6, 29 0 E6, 1 0 1, 1 0 DC, 5 0 9, A6 0 E6, 1 0 DC, 23E 3 E6, 45 4 E6, 142 1
  E6, 4F 1 DC, 3 2 DC, 49 1 DC, 2 2 E6, 3 0 DC, 1 0 E6, 1 3 DC, 35 0 E6, 1 0 DC, 1 0 E6, 1 0 DC,
  C1 0 9, 2A 0 9, F 0 9, 3A 0 9, 1 0 7, 46 2 E6, 33 1 9, 40 0 7, 4D 0 9, A 0 7, 6B 0 9, 1 0 7, B3
  0 7, 1 0 9, 51 1 7, 12 0 9, 19 6 E6, A 4 E6, 5E 2 9, 74 0 9, 4 0 7, 18 0 E6, 64 0 9, 1 0 7, FC
  0 9, 1 0 7, 7F 0 9, 77 0 9, 1 0 7, 74 0 9, 10E 0 9, 1 0 7, 103 1 9, 6 0 7, 9D 0 9, 54 0 9, 13 0
  9, 52 0 9, 1A6 0 9, 103 0 7, 2 1 9, 53 0 9, 1AA 1 9, 41EE 0 9, 9C1 4 1, 40 6 E6, 4C0 1 6, 4CAE
  0 1, 14C7 1 D8, 2 2 1, 6 0 E2, 1 4 D8, D 7 DC, A 4 E6, 5 1 DC, 20 3 E6, 98 2 E6, DBE 6 E6, 8 10
  E6, 13 6 E6, 8 1 E6, 3 4 E6, 69 0 E6, A1 6 E6, 17E 0 E6, 3E 3 E6, 200 1 E8, 2 0 DC, 1 0 E6, FF
  0 E6, 1 0 DC, F4 0 E6, 3 0 E6, 8 1 E6, 7 0 E6, 1DB 6 DC, 74 5 E6, 6 0 7"

def markClasses : List (Nat × List Nat) := Table.placedRows markClassRows

/-- The class of a character; one that is no such mark has class 0. -/
def markClass (c : Char) : Nat := (Table.runValue? markClasses c.toNat).getD 0

/-- The class of the signs that take the vowel away from a letter. -/
def viramaClass : Nat := 9

/-- The turning points of the marks of all kinds. -/
def markTurnsText : String :=
  "300 70 113 7 107 2D 1 1 1 2 1 2 1 1 48 B 30 15 10 1 65 7 2 6 2 2 1 4 23 1 1E 1B 5B B 3A 9 9 1
  18 4 1 9 1 3 1 5 2B 3 3B 9 2A 18 1 21 36 3 1 12 1 7 A 2 1D 3 38 1 1 7 2 2 2 3 9 1 A 2 1A 1 2 3
  38 1 1 5 4 2 2 3 3 1 1E 2 3 1 B 3 38 1 1 8 1 3 1 3 14 2 16 6 1 3 38 1 1 7 2 2 2 3 7 3 A 2 1E 1
  3B 5 3 3 1 4 9 1 28 5 37 1 1 7 1 3 1 4 7 2 B 2 1D 3 38 1 1 7 1 3 1 4 7 2 B 2 F 1 C 4 37 2 1 7 1
  3 1 4 9 1 A 2 1D 3 46 1 4 6 1 1 1 8 12 2 3D 1 2 7 C 8 62 1 2 9 B 7 49 2 1B 1 1 1 1 1 4 2 31 14
  1 2 5 B 1 24 9 1 64 14 17 4 4 3 1 3 2 7 3 4 D C 1 1 A 4 2BF 3 3B2 4 1C 3 1D 2 1E 2 40 20 9 1 2D
  3 1 1 75 2 22 1 76 C 4 C DB 5 39 A 1 1D 2 1 30 2E 2 C 14 5 2F 11 26 9 C 3 1E D 38 E 30 14 98 3
  1 15 4 1 6 1 2 3 C6 40 2D0 21 BFE 3 8D 1 60 20 22A 6 69 2 75D4 4 1 A 20 2 50 2 110 1 3 1 4 1 17
  5 4 1 53 2 32 12 1A 12 D 1 26 8 19 D 2C 4 2F E 24 1 43 E C 1 8 2 2D 3 32 1 1 3 2 2 5 2 1 1 29 5
  5 2 EC 8 1 2 4F30 1 2E1 10 10 10 3CD 1 E2 1 95 5 686 3 1 2 5 4 28 3 4 1 A5 2 23D 4 41 5 13D 2
  4D 6 46 B 31 4 7A 3 35 F 29 1 2 2 A 4 2D B 7 1 3D 3 24 E 10 2 2C 1 C 3 30 E 8 4 1 2 5C C 6 1 2
  1 9D C 15 4 37 2 1 7 2 2 2 3 9 1 A 2 2 7 3 5 43 9 1 1 2 1 1 4 1 5 1 1 E 2 52 12 17 1 51 14 EB 7
  2 9 1B 2 52 11 6A D 65 F 100 F F5 6 1 2 2 4 1 1 1 2 8D 7 2 7 3 1 1C A 28 7 1 4 8 1 9 B 2E 10 C6
  8 C7 8 1 8 52 16 1 E 7A 6 3 1 1 2 1 7 1 1 42 5 1 2 1 5 15B 4 9 2 1 1 30 7 3 5 17 1 14E5 1 6 F
  2CC8 12 9C0 5 3B 7 418 1 1 37 7 4 51 1 B 2 4CAB 2 1261 2E 2 17 21E 5 3 6 8 8 2 7 1E 4 94 3 7BB
  37 4 32 8 1 E 1 16 5 1 F 550 7 1 11 2 7 1 2 1 5 64 1 A0 7 177 1 3D 4 1FC 4 FE 2 F3 1 2 1 7 2 5
  1 1DA 7 6D 7 C17B5 F0"

def markTurns : List Nat := Table.turns markTurnsText

/-- A mark that belongs to the character in front of it. -/
def isMark (c : Char) : Bool := turned markTurns c.toNat

end Classwright
