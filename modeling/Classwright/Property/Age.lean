import Classwright.Pattern.CharSet
import Classwright.Property.Category
import Classwright.Text.Table
/-!
# Age

The edition of the character standard in which a character came to be, up to the sixteenth one.
-/
namespace Classwright.Age

/-- The names of the editions, from the first one on. -/
def names : String :=
  "1.1 V1_1, 2.0 V2_0, 2.1 V2_1, 3.0 V3_0, 3.1 V3_1, 3.2 V3_2, 4.0 V4_0, 4.1 V4_1, 5.0 V5_0, 5.1
  V5_1, 5.2 V5_2, 6.0 V6_0, 6.1 V6_1, 6.2 V6_2, 6.3 V6_3, 7.0 V7_0, 8.0 V8_0, 9.0 V9_0, 10.0
  V10_0, 11.0 V11_0, 12.0 V12_0, 12.1 V12_1, 13.0 V13_0, 14.0 V14_0, 15.0 V15_0, 15.1 V15_1,
  16.0 V16_0"

/-- Where the age of characters changes, with the place of the edition. The last place is for
characters that are not there yet. -/
def rows : String :=
  "0 0, 1F6 3, 4 0, 1E 3, 8 5, 1 6, 1 3, 12 6, 3 7, B 8, E 0, 59 3, 5 6, 2 0, 2F 3, 1 0, A 3, 5
  6, 11 0, 46 3, 9 5, 1 6, 8 7, 5 6, 3 0, 2 3, 1 5, D 9, 4 0, 2 9, 2 1B, 2 0, 1 8, 3 0, 1 F, 1
  1B, 4 0, 7 1B, 1 0, 1 1B, 1 0, 14 1B, 1 0, 2C 9, 1 0, 7 3, 1 5, 2 0, 1 3, 1 0, 1 3, 1 0, 1 3,
  1 0, 1 3, 1 0, 12 4, 2 5, 1 6, 5 7, 4 3, 1 0, C 3, 1 0, 42 3, 1 0, C 3, 1 0, 29 9, 1 3, 2 5, 2
  3, 4 0, 35 5, 2 0, 2 5, 2 0, 2 5, 2 8, 1 0, 1C 3, 2 0, 8 7, 2 0, 2 8, 6 5, 10 8, 4 9, 10 A, 2
  B, 2 F, 8 1B, 1 0, 26 1B, 2 0, 7 13, 1 0, 27 13, 1 0, 1 3, 1 1B, 2 F, 2 C, 1 1B, 1 1, 11 7, 1
  1, D 0, A 8, 1 0, 9 1, 1 7, 3 1B, 8 0, 1B 1B, 4 13, 1 0, 5 1B, B 6, 4 C, 1 F, 1 9, 5 7, 1 0, 1
  6, 9 9, 5 0, 1 E, 1 17, 1 7, 1 0, 1 B, 1 0, 1A 9, 5 0, 13 3, 3 6, 3 7, 6 B, 1 0, E 5, 2 0, 48
  3, 2 0, 5 3, 1 0, F 3, 1 0, 1E 6, 2 0, A 3, 5 6, 1 3, E 1B, 1 3, 1E 6, 3 3, 1B 1B, 2 6, 3 7,
  1E 9, 12 3, 31 5, 1 1B, E 8, 3B 1B, 2 13, 3 A, 2E 1B, 2 A, F 1B, 1 B, 1C 1B, 2 B, 1 1B, 1 12,
  B 1B, 5 17, 1F 1B, 1 17, 2 1B, 5 1A, 1 17, 8 C, 1 F, 1 C, B F, 6 10, 2 17, 1 11, 8 16, A 17, B
  13, 1 11, F 10, 1 C, 1B F, 1 A, 1 0, 3 6, 1 0, 35 B, 2 0, 12 A, 1 B, 1 0, 5 A, 1 B, 2 0, 19 9,
  2 B, 5 F, 1 A, 2 8, 2 7, 1 8, 2 F, 1 0, 3 1B, 1 0, 8 1B, 2 0, 2 1B, 2 0, 16 1B, 1 0, 7 1B, 1
  0, 1 1B, 3 0, 4 1B, 2 0, 1 6, 1 0, 7 1B, 2 0, 2 1B, 2 0, 3 7, 1 1B, 8 0, 1 1B, 4 0, 2 1B, 1 0,
  5 1B, 2 0, 15 A, 1 12, 2 13, 1 1B, 2 6, 1 0, 1 6, 1 1B, 1 0, 6 1B, 4 0, 2 1B, 2 0, 16 1B, 1 0,
  7 1B, 1 0, 2 1B, 1 0, 2 1B, 1 0, 2 1B, 2 0, 1 1B, 1 0, 5 1B, 4 0, 2 1B, 2 0, 3 1B, 3 9, 1 1B,
  7 0, 4 1B, 1 0, 1 1B, 7 0, F 9, 1 13, 1 1B, A 0, 3 1B, 1 0, 7 6, 1 0, 1 1B, 1 0, 3 1B, 1 0, 16
  1B, 1 0, 7 1B, 1 0, 2 1B, 1 0, 5 1B, 2 0, A 1B, 1 0, 3 1B, 1 0, 3 1B, 2 0, 1 1B, F 0, 1 6, 3
  1B, 2 0, A C, 1 6, 1 1B, 7 10, 1 12, 6 1B, 1 0, 3 1B, 1 0, 8 1B, 2 0, 2 1B, 2 0, 16 1B, 1 0, 7
  1B, 1 0, 2 1B, 1 6, 1 0, 4 1B, 2 0, 8 9, 1 1B, 2 0, 2 1B, 2 0, 3 1B, 7 16, 1 0, 2 1B, 4 0, 2
  1B, 1 0, 3 9, 2 1B, 2 0, B 6, 1 B, 6 1B, A 0, 2 1B, 1 0, 6 1B, 3 0, 3 1B, 1 0, 4 1B, 3 0, 2
  1B, 1 0, 1 1B, 1 0, 2 1B, 3 0, 2 1B, 3 0, 3 1B, 3 0, 8 7, 1 0, 3 1B, 4 0, 5 1B, 3 0, 3 1B, 1
  0, 4 1B, 2 9, 1 1B, 6 0, 1 1B, E 7, 1 0, C 6, 8 1B, 5 F, 1 0, 3 13, 1 0, 8 1B, 1 0, 3 1B, 1 0,
  17 1B, 1 0, A F, 1 0, 5 1B, 2 17, 1 9, 1 0, 7 1B, 1 0, 3 1B, 1 0, 4 1B, 7 0, 2 1B, 1 9, 2 10,
  1 1B, 2 17, 1 1B, 2 0, 2 9, 2 1B, 2 0, A 1B, 7 14, 1 9, 8 11, 1 F, 1 0, 2 13, 1 0, 8 1B, 1 0,
  3 1B, 1 0, 17 1B, 1 0, A 1B, 1 0, 5 1B, 2 6, 2 0, 7 1B, 1 0, 3 1B, 1 0, 4 1B, 7 0, 2 1B, 6 17,
  1 0, 1 1B, 1 0, 2 8, 2 1B, 2 0, A 1B, 1 8, 2 18, 1 1B, C 12, 1 F, 1 0, 2 16, 1 0, 8 1B, 1 0, 3
  1B, 1 0, 17 B, 1 0, 10 B, 1 12, 2 9, 1 0, 6 9, 1 1B, 1 0, 3 1B, 1 0, 4 B, 1 11, 1 1B, 4 11, 3
  0, 1 11, 7 10, 1 0, 2 9, 2 1B, 2 0, A 9, 6 11, 3 9, 7 1B, 1 16, 1 3, 2 1B, 1 3, 12 1B, 3 3, 18
  1B, 1 3, 9 1B, 1 3, 1 1B, 2 3, 7 1B, 3 3, 1 1B, 4 3, 6 1B, 1 3, 1 1B, 1 3, 8 1B, 6 F, A 1B, 2
  3, 3 1B, C 0, 3A 1B, 4 0, 1D 1B, 25 0, 2 1B, 1 0, 1 1B, 1 14, 1 0, 2 14, 1 0, 1 1B, 1 14, 1 0,
  1 14, 6 0, 4 14, 1 0, 7 14, 1 0, 3 1B, 1 0, 1 1B, 1 0, 1 14, 2 0, 2 14, 1 0, D 14, 1 0, 3 1B,
  2 0, 5 1B, 1 0, 1 1B, 1 0, 6 18, 1 1B, 1 0, A 1B, 2 0, 2 C, 2 1B, 20 1, 48 1B, 1 1, 21 3, 1 9,
  2 1B, 4 1, 1B B, 4 1, 6 3, 1 1, 1 1B, 1 1, 15 3, 3 1, 7 3, 1 1, 1 3, 3 1B, 1 3, F 1B, 1 9, 1
  3, 1 7, 2 9, 3 A, 4 B, 2 1B, 25 3, 22 9, 1 3, 5 9, 1 3, 2 9, 1 3, 7 9, 3 3, 4 9, 6 3, 1A 9, 40
  A, 4 9, 2 0, 26 1B, 1 C, 1 1B, 5 C, 1 1B, 2 0, 27 5, 2 7, 2 0, 1 7, 1 C, 3 0, 5A A, 5 0, 44 A,
  5 0, 52 A, 6 3, 7 7, 1 3, 3F 7, 1 3, 1 1B, 1 3, 4 1B, 2 3, 7 1B, 1 3, 1 1B, 1 3, 4 1B, 2 3, 27
  7, 1 3, 1 1B, 1 3, 4 1B, 2 3, 1F 7, 1 3, 1 1B, 1 3, 4 1B, 2 3, 7 1B, 1 3, 1 1B, 1 3, 4 1B, 2
  3, 7 7, 1 3, 7 1B, 1 3, 17 7, 1 3, 1F 7, 1 3, 1 1B, 1 3, 4 1B, 2 3, 7 7, 1 3, 27 7, 1 3, 13
  1B, 2 B, 2 7, 2 3, 1C 1B, 3 7, 1A 1B, 6 3, 55 10, 1 1B, 2 10, 6 1B, 2 A, 1 3, 276 A, 9 3, 1D
  1B, 3 3, 51 F, 8 1B, 7 5, D 17, 1 5, 7 17, 1 1B, 9 17, 1 5, 17 1B, 9 5, 14 1B, C 5, D 1B, 1 5,
  3 1B, 1 5, 2 1B, C 3, 5D 6, 1 1B, 2 3, A 1B, 6 6, A 1B, 6 3, F 17, 1 3, A 1B, 6 3, 58 13, 1
  1B, 7 3, 2A 9, 1 1B, 5 A, 46 1B, A 6, 1D F, 2 1B, 1 6, C 1B, 4 6, C 1B, 4 6, 1 1B, 3 6, 2A 1B,
  2 6, 5 1B, B 7, 2A A, 2 1B, 4 7, 1A 1B, 6 7, A A, 1 1B, 3 7, 2 6, 20 7, 1C 1B, 2 7, 2 A, 3F
  1B, 1 A, 1D 1B, 2 A, B 1B, 6 A, A 1B, 6 A, E 1B, 2 F, F 16, 2 17, E 1B, 31 8, 4C 17, 1 1B, 1
  1A, 2 8, 2D 17, 2 1A, 1 9, 2B C, 3 9, C C, 6 B, 34 1B, 8 B, 4 9, 38 1B, 3 9, F 1B, 3 9, 33 11,
  9 1A, 2 1B, 5 13, 2B 1B, 2 13, 3 C, 8 1B, 8 A, 23 C, 4 12, 1 F, 2 14, 1 1B, 5 6, 6C 7, 58 8, 7
  9, 1C F, F 12, 4 17, 1 11, 1 B, 1 A, 1 8, 2 0, 9B 1, 1 9, 4 0, 5A 9, 6 0, 16 1B, 2 0, 6 1B, 2
  0, 26 1B, 2 0, 6 1B, 2 0, 8 1B, 1 0, 1 1B, 1 0, 1 1B, 1 0, 1 1B, 1 0, 1F 1B, 2 0, 35 1B, 1 0,
  F 1B, 1 0, E 1B, 2 0, 6 1B, 1 0, 13 1B, 2 0, 3 1B, 1 0, 9 1B, 1 0, 2F 3, 1 0, 17 5, 1 3, 6 5,
  5 6, 2 7, 2 5, 1 7, 7 5, 5 9, 1 1B, 1 E, 4 0, 7 5, 1 1B, 2 0, 1B 1B, 1 7, 5 B, 8 1B, 3 0, B 1,
  1 2, 1 3, 3 5, 2 7, 4 A, 3 B, 1 D, 1 F, 3 10, 1 12, 1 17, 1 1B, F 0, 12 3, 2 5, 7 7, 1 8, 4 9,
  1 1B, F 0, 39 3, 2 6, 1 7, 1 5, F 7, 1 8, 2 9, 1 A, 3 0, 30 3, 1 8, 1 9, 4 A, 1 10, 2 1B, 4 0,
  5B 3, 9 5, C 0, F2 5, E 0, 1 3, 1 0, 79 3, 1 5, 1 3, 1E 5, 34 6, 2 7, B 8, C A, 1 B, B F, 7
  11, 4 12, 1 0, 25 3, 2 1A, 3 1B, 16 0, B 1B, 15 0, 8B 5, 14 6, 1 0, 96 5, A 0, 50 3, 8 5, 8 0,
  14 6, 2 5, 2 7, 1 3, 1 0, 56 3, 2 5, C 7, 2 5, A 6, 8 7, B 9, 1 A, 2 6, 2 7, 10 8, 1 9, A A, 3
  9, 4 A, A B, 1 A, 13 B, 1 A, 1 B, 4 A, 18 F, 1 0, 4 B, 1 0, 4 B, 2 0, 1C B, 1 0, 23 B, 1 0, 1
  B, 1 0, 4 B, 3 0, 1 A, 1 0, 7 B, 2 0, 7 5, E 0, 1F B, 3 0, 18 B, 1 0, E B, 1 7, 7 8, 4 C, 1 9,
  1 C, 1 B, 2 5, 1C 9, 4 5, 10 3, 100 5, 200 6, E 7, 6 8, 7 9, 5 8, 4 9, 29 F, 3 9, 5 A, 5 F, 1A
  1B, 2 F, 20 1B, 1 16, 1 F, 22 13, 3 F, C 14, 1 F, 8 12, 1 13, 19 10, 4 13, F 14, 1 7, 2F 17, 1
  7, 2F 17, 1 8, D 9, 3 A, 1 9, 3 8, 4 9, 6 A, 2 7, 6B A, 7 C, 2 1B, 5 7, 2D 1B, 1 C, 1 1B, 5 C,
  1 1B, 2 7, 36 C, 2 1B, 7 7, 1 B, 1 1B, E B, 1 7, 17 1B, 9 7, 7 1B, 1 7, 7 1B, 1 7, 7 1B, 1 7,
  7 1B, 1 7, 7 1B, 1 7, 7 1B, 1 7, 7 1B, 1 7, 7 1B, 1 9, 20 7, 18 9, 4 7, 2 9, 13 A, 1 C, A F, 7
  11, 2 12, 5 13, 5 14, 1 16, 3 17, B 1B, 22 3, 1A 1B, 1 3, 59 1B, C 3, D6 1B, 1A 3, C 19, 4 0,
  38 3, 3 5, 3 3, 1 0, 1 1B, 1 0, 54 5, 2 1B, 2 0, 6 5, 2 0, 5E 5, 1 1B, 5 0, 28 9, 1 12, 1 13,
  1 1B, 1 0, 5E 1B, 1 0, 10 3, 18 B, 3 16, 5 7, 10 9, 14 1A, 2 1B, 9 19, 1 5, 10 0, 1D 6, 2 1B,
  1 0, 24 A, C 6, 1 5, F 0, 1C 6, 2 7, 1 0, 32 5, F 0, C 6, 4 0, 2F 15, 1 0, 77 6, 4 0, 63 6, 2
  0, 1F 6, 1 3, 19B6 16, A 6, 40 0, 51A6 7, 16 9, 8 A, 8 C, 1 10, 9 12, 15 13, 5 16, D 17, 3 3,
  48D 1B, 3 3, 12 5, 2 3, 10 5, 1 3, C 5, 1 3, 3 5, 1 3, 1 1B, 9 A, 30 9, 12C 1B, 14 9, 20 B, 2
  9, 12 C, 8 9, 1C F, 6 10, 1 C, 1 A, 58 1B, 8 7, 17 8, 4 9, 5 8, 2 9, 6B B, 2 10, 1 B, 2 C, 2
  F, C B, A C, 1 F, 3 11, 1 13, 1 F, 2 10, 6 13, 2 14, 6 17, 2 14, 5 16, 4 1A, 3 1B, 2 17, 2 1B,
  1 17, 1 1B, 1 17, 5 1A, 3 1B, 15 17, 3 16, 2 F, 1 C, 2 B, 1 9, 5 7, 2C 16, 1 1B, 3 A, A 1B, 6
  8, 38 1B, 8 9, 45 11, 1 1B, 8 9, C 1B, 6 A, 1C 10, 2 13, 2 9, 54 1B, B 9, 1 A, 1D 1B, 3 A, 4E
  1B, 1 A, B 1B, 4 A, 2 F, 1F 1B, 1 9, 37 1B, 9 9, E 1B, 2 9, A 1B, 2 9, 4 A, 1C F, 4 A, 43 1B,
  18 A, 5 C, 17 1B, A B, 6 1B, 2 B, 6 1B, 2 B, 6 1B, 9 B, 7 1B, 1 B, 7 1B, 1 F, 30 10, 4 F, 2
  14, 2 16, 4 1B, 4 10, 50 A, 2E 1B, 2 A, A 1B, 6 1, 2BA4 1B, C A, 17 1B, 4 A, 31 1B, 804 0,
  1A2E C, 2 5, 3B A, 3 1B, 2 7, 6A 1B, 26 0, 7 1B, C 0, 5 1B, 5 3, 1 0, 19 1B, 1 0, 5 1B, 1 0, 1
  1B, 1 0, 2 1B, 1 0, 2 1B, 1 0, 6C B, 10 17, 1 1B, 10 0, 16D 17, 10 0, 40 1B, 2 0, 36 1B, 7 17,
  1 4, 20 0, C 5, 1 6, 1 17, 2 5, 10 7, A 1B, 6 0, 4 9, 3 F, 7 10, 2 0, 15 5, 2 6, 2 0, A 1B, 1
  0, 13 1B, 1 0, 4 1B, 4 0, 3 5, 1 0, 1 1B, 1 0, 87 1B, 2 0, 1 1B, 1 0, 5E 5, 2 0, 5E 1B, 3 0, 6
  1B, 2 0, 6 1B, 2 0, 6 1B, 2 0, 3 1B, 3 0, 7 1B, 1 0, 7 1B, A 3, 3 2, 1 0, 3 6, C 1B, 1 6, 1A
  1B, 1 6, 13 1B, 1 6, 2 1B, 1 6, F 1B, 2 6, E 1B, 22 6, 7B 1B, 5 6, 3 1B, 4 6, 2D 1B, 3 6, 9 7,
  4B F, 2 11, 2 1B, 1 9, C 16, 1 1B, 3 F, 1 1B, 2F 9, 2E 1B, 82 9, 1D 1B, 3 9, 31 1B, F F, 1C
  1B, 4 4, 1F F, 1 4, 4 1B, 9 12, 3 4, 1B 1B, 5 F, 2B 1B, 5 6, 1E 1B, 1 6, 1 7, 24 1B, 4 7, E
  1B, 2A 4, 26 6, 2 4, 26 6, 50 1B, 2 6, A 1B, 6 11, 24 1B, 4 11, 24 1B, 4 F, 28 1B, 8 F, 34 1B,
  B F, 1 17, B 1B, 1 17, F 1B, 1 17, 7 1B, 1 17, 2 1B, 1 17, B 1B, 1 17, F 1B, 1 17, 7 1B, 1 17,
  2 1B, 3 1A, 34 1B, C F, 137 1B, 9 F, 16 1B, A F, 8 1B, 18 17, 6 1B, 1 17, 2A 1B, 1 17, 9 1B,
  45 6, 6 1B, 2 6, 1 1B, 1 6, 2C 1B, 1 6, 2 1B, 3 6, 1 1B, 2 6, 1 A, 16 1B, 1 A, 9 F, 3F 1B, 8
  F, 9 1B, 30 10, 13 1B, 1 10, 2 1B, 5 10, 5 8, 1A A, 2 1B, 3 8, 1 9, 1A 1B, 5 9, 1 1B, 40 C, 38
  1B, 4 10, 2 C, 2 10, 10 1B, 2 10, 2E 7, 4 1B, 1 7, 2 1B, 5 7, 8 1B, 1 7, 3 1B, 1 7, 1B 13, 2
  1B, 2 7, 3 1B, 4 7, 9 13, 1 1B, 7 7, 9 1B, 7 A, 20 F, 20 1B, 20 F, 27 1B, 4 F, C 1B, 9 A, 36
  1B, 3 A, 1D 1B, 2 A, 1B 1B, 5 A, 8 F, 12 1B, 7 F, 4 1B, C F, 7 1B, 50 A, 49 1B, 37 10, 33 1B,
  D 10, 33 1B, 7 10, 6 13, 28 1B, 8 13, A 1B, 6 1A, 26 1B, 3 1A, 1D 1B, 8 1A, 2 1B, D0 A, 1F 1B,
  1 16, 2A 1B, 1 16, 3 1B, 2 16, 2 1B, 10 1A, 3 1B, 37 1A, 1 18, 3 13, 28 1B, 8 13, 2A 1B, 16
  17, 1A 1B, 26 16, 1C 1B, 14 14, 17 1B, 9 B, 4E 1B, 4 B, 1E 17, 6 1B, 9 F, 1 A, 42 17, 1 1B, A
  13, 1 1B, 2 C, 19 1B, 7 C, A 1B, 6 C, 35 1B, 1 C, E 13, 3 16, 1 1B, 8 F, 27 1B, 9 C, 49 10, 4
  F, 1 16, 2 C, A F, 1 10, 5 1B, 1 F, 14 1B, B F, 12 1B, 1 F, 2B 11, 1 18, 3 1B, 3E 10, 7 1B, 1
  10, 1 1B, 1 10, 4 1B, 1 10, F 1B, 1 10, B 1B, 6 F, 3B 1B, 5 F, A 1B, 6 10, 1 F, 3 1B, 1 F, 8
  1B, 2 F, 2 1B, 2 F, 16 1B, 1 F, 7 1B, 1 F, 2 1B, 1 F, 5 1B, 1 13, 1 F, 9 1B, 2 F, 2 1B, 2 F, 3
  1B, 2 10, 1 1B, 6 F, 1 1B, 5 F, 7 1B, 2 F, 7 1B, 3 F, 5 1B, B 1A, A 1B, 1 1A, 1 1B, 2 1A, 1
  1B, 1 1A, 26 1B, 1 1A, A 1B, 1 1A, 1 1B, 2 1A, 1 1B, 1 1A, 4 1B, 1 1A, A 1B, 1 1A, 2 1B, 8 1A,
  2 1B, 1D 11, 5A 16, 1 11, 1 1B, 1 11, 1 13, 1 14, 1 16, 2 1B, 1E F, 48 1B, 8 F, A 1B, A6 F, 36
  1B, 2 F, 12 10, 14 1B, 22 F, 45 1B, B F, A 1B, 6 11, D 1B, 13 C, 38 14, 1 17, 1 1B, 6 C, A 1B,
  6 1A, 14 1B, 1C 10, 1A 13, 1 1B, 2 10, F 1B, 4 10, 10 17, 7 1B, B9 13, 3C 1B, 64 F, 53 1B, C
  F, 1 16, 7 1B, 2 16, 1 1B, 2 16, 8 1B, 1 16, 2 1B, 1 16, 1E 1B, 1 16, 2 1B, 2 16, C 1B, 9 16,
  A 1B, 46 14, 8 1B, 2 14, 2E 1B, 2 14, B 1B, 1B 12, 48 1B, 8 12, 34 14, 2 12, 17 13, 1 12, 5
  1B, D 17, 10 F, 39 1B, 7 18, A 1B, B6 1A, 22 1B, E 1A, A 1B, 6 11, 9 1B, 1 11, 2D 1B, 1 11, E
  1B, A 11, 1D 1B, 3 11, 20 1B, 2 11, 16 1B, 1 11, E 1B, 49 12, 7 1B, 1 12, 2 1B, 1 12, 2C 1B, 3
  12, 1 1B, 1 12, 2 1B, 1 12, 9 1B, 8 12, A 1B, 6 13, 6 1B, 1 13, 2 1B, 1 13, 25 1B, 1 13, 2 1B,
  1 13, 6 1B, 7 13, A 1B, 136 13, 19 1B, 7 18, 11 1B, 1 18, 29 1B, 3 18, 1C 1A, 1 1B, 55 16, 1
  1B, F 14, 32 1B, D 14, 1 8, 36F F, 2A 10, 1 1B, 66 8, 63 F, C 1B, 1 8, 4 F, 1 1B, B 10, C4 1B,
  A4C 17, 63 1B, D A, 42F 18, 1 14, 9 18, 1D 1B, A 1A, F9B 1B, 5 10, 247 1B, 1AB9 1A, 3A 1B, 6C6
  B, 239 1B, 7 F, 1F 1B, 1 F, A 1B, 4 F, 2 17, 4F 1B, 1 17, A 1B, 6 F, 1E 1B, 2 F, 6 1B, A F, 46
  1B, A F, A 1B, 1 F, 7 1B, 1 F, 15 1B, 5 F, 13 1B, 1B0 1A, 3A 1B, C6 13, 5B 1B, 65 C, 45 14, 6
  1B, 4 14, 1 C, 2F 14, 9 1B, 7 C, 11 1B, 40 11, 1 12, 1 14, 2 16, 1 1B, B 16, 2 1B, E 11, 17ED
  13, 5 14, 6 1B, 8 11, 2F3 16, 1E3 1B, 29 1A, 1 16, 9 1B, 22E7 17, 4 1B, 1 17, 7 1B, 1 17, 2
  1B, 1 B, 2 12, 11D 17, 4 1B, F 18, 1 1B, 1D 14, 3 1B, 2 18, 1 1B, E 14, 4 1B, 8 12, 18C 1B,
  904 F, 6B 1B, 5 F, D 1B, 3 F, 9 1B, 7 F, A 1B, 2 F, 8 1B, F5C 1A, FA 1B, 6 1A, 1B4 1B, 4C 17,
  2E 1B, 2 17, 17 1B, 9 17, 74 1B, 3C 4, F6 1B, A 4, 27 1B, 2 9, 1 4, B4 10, B 17, 2 1B, 15 7,
  46 1B, 7A 18, 14 1B, C 13, 14 1B, C 6, 57 1B, 9 8, 12 13, 7 1B, 87 4, 55 1B, 1 4, 47 1B, 1 4,
  2 1B, 2 4, 1 1B, 2 4, 2 1B, 2 4, 4 1B, 1 4, C 1B, 1 4, 1 1B, 1 4, 4 6, 1 4, 2 1B, 1 4, 41 1B,
  1 4, 4 1B, 2 4, 8 1B, 1 4, 7 1B, 1 4, 1C 1B, 1 4, 4 1B, 1 4, 5 1B, 1 4, 1 1B, 3 4, 7 1B, 1 4,
  152 7, 2 1B, 2 4, 122 8, 2 1B, 2 4, 32 10, 28C 1B, F 10, 5 1B, 1 10, F 1B, 450 17, 1F 1B, 6
  18, 6 1B, D5 11, 7 1B, 1 11, 11 1B, 2 11, 7 1B, 1 11, 2 1B, 1 11, 5 1B, 5 18, 3E 1B, 21 18, 1
  1B, 70 14, 2D 1B, 3 14, E 1B, 2 14, A 1B, 4 14, 2 1B, 140 17, 1F 1B, 11 14, 3A 1B, 5 14, 1 1B,
  1D0 18, 2A 1B, D6 1A, 2B 1B, 4 1A, 1 1B, 1E0 17, 7 1B, 1 17, 4 1B, 1 17, 2 1B, 1 17, F 1B, 1
  F, C5 1B, 2 F, 10 1B, 29 11, 4B 14, 1 1B, 4 11, A 1B, 4 11, 2 1B, 311 13, 44 1B, 4C 14, 3D 1B,
  C2 C, 4 1B, 1 C, 1B 1B, 1 C, 2 1B, 1 C, 1 1B, 2 C, 1 1B, 1 C, A 1B, 1 C, 4 1B, 1 C, 1 1B, 1 C,
  1 1B, 6 C, 1 1B, 4 C, 1 1B, 1 C, 1 1B, 1 C, 1 1B, 1 C, 3 1B, 1 C, 2 1B, 1 C, 1 1B, 2 C, 1 1B,
  1 C, 1 1B, 1 C, 1 1B, 1 C, 1 1B, 1 C, 1 1B, 1 C, 2 1B, 1 C, 1 1B, 2 C, 4 1B, 1 C, 7 1B, 1 C, 4
  1B, 1 C, 4 1B, 1 C, 1 1B, 1 C, A 1B, 1 C, 11 1B, 5 C, 3 1B, 1 C, 5 1B, 1 C, 11 1B, 34 C, 2 1B,
  10E 9, 2C 1B, 4 9, 64 1B, C B, F 1B, 2 B, E F, 1 1B, 1 B, F 1B, 1 B, F F, 16 1B, A A, B F, 2
  16, 3 A, 1F 13, 1 B, 1 A, 1 B, B A, 1 B, 1 A, 1 B, 2 A, 1 B, 3 A, 1 B, 3 A, 5 B, 8 A, 1 B, 7
  A, 1 B, A C, 2 14, 1 16, 3 B, 9 A, 1 B, 1 A, 2 B, 2 A, 1 B, A A, 4 B, 2 A, 1 B, A 11, 12 16, 1
  1B, 38 B, 1A A, 1 B, 2 1B, D A, 22 B, 9 11, 1 1B, 4 A, 9 1B, 7 B, 2 1B, E 12, 6 1B, 9A B, 21
  F, C 10, 3 B, 6 F, 1 B, 46 F, 1 10, 2 B, 14 F, C B, 25 F, 1 B, 5 F, 4 10, 5 F, C B, 11 F, 7
  10, 8 B, 3F F, 1 B, 1 F, 1 B, B6 F, 1 B, 4 F, 2 10, 1 B, 3E F, 2 C, 4 F, 7 10, 5 B, 18 F, 12
  11, 1 F, 29 11, 1 F, 56 B, 5 C, 1 B, 10 C, 1 B, 3 C, 1 B, 1 C, 1 B, 1 C, 1 B, 1 C, 1 B, 3 C, 1
  B, 6 C, 2 B, 4 C, 1 B, 1 C, 2 B, 4 C, 1 B, C F, 2 10, 2 B, B F, 30 B, 46 F, A 10, 1 11, 2 12,
  2 14, 1 16, 2 1B, 4 18, 1 17, 3 F, D 1B, 3 F, 4 11, 3 12, 2 13, 1 14, 1 16, 2 1B, 3 B, 74 18,
  3 1B, 4 18, 5 F, 55 13, 4 18, 1 1B, 6 14, C 1B, 4 17, 1 1B, F F, C 1B, 4 F, 38 1B, 8 F, A 1B,
  6 F, 28 1B, 8 F, 1E 1B, 2 16, 2 1A, A 1B, 4 1A, 2 1B, 3E 12, C 16, 1 14, 3 10, 9 11, 6 12, 1
  11, 8 12, 8 11, 1 12, 2 11, C 14, 1 11, C 12, 1 13, 3 11, F 12, D 13, 5 14, 1 16, 1 13, 4 16,
  2 17, 1 13, 1 14, 1 13, 4 10, 5 11, D 12, 6 13, B 16, 2 14, 6 16, 3 14, 2 13, A 14, 6 10, 1
  13, 2 14, 8 16, 1 17, 1 14, 3 12, 17 13, 19 14, 54 1B, C 13, E 1B, 2 14, 4 16, 1 18, 3 14, 3
  17, 2 1B, 3 14, 3 16, 4 18, 2 1A, 1 1B, 5 1A, 1 14, 6 16, 13 17, 4 18, 3 16, 7 17, 4 18, 3 1A,
  1 18, 1 16, 3 17, 3 1A, 1 1B, 7 18, 2 16, 7 17, 3 18, 2 1A, 1 1B, 2 1A, 1 17, 8 18, 1 1A, 1
  1B, 6 17, 7 18, 2 1B, 7 16, 93 1B, 1 16, 37 1A, 25 16, A 1B, 404 1, 2 4, A6D7 16, 7 17, 2 1B,
  20 A, 1035 17, 4 18, 1 1B, 6 B, DE 1B, 2 10, 1682 1B, E 12, 1D31 1B, F 19, 26E 1B, 9A2 4, 21E
  1B, 5E0 1, 2 16, 134B 1B, 5 18, 1060 1B, DC4E 1, 2 1B, FFFE 1, 2 1B, FFFE 1, 2 1B, FFFE 1, 2
  1B, FFFE 1, 2 1B, FFFE 1, 2 1B, FFFE 1, 2 1B, FFFE 1, 2 1B, FFFE 1, 2 1B, FFFE 1, 2 1B, FFFE
  1, 2 1B, 1 4, 1 1B, 1E 4, 60 1B, 80 6, F0 1B, FE0E 1"

/-- The characters of an edition, by its name. Each edition keeps those of the ones before it. -/
def ofName? (name : Text) : Option CharSet :=
  (Name.place? names name).map fun n =>
    .ofTurns (Table.turnsWhere (· ≤ n) false (Table.placedRows rows))

end Classwright.Age
