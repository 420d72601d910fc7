import Classwright.Text.CaseMap
import Classwright.Text.Table
/-!
# Characters of domain names

A domain name may be written in many ways that mean the same: in capitals, in wide letters, with
ligatures. Each character is mapped to those that stand for it, is left out, or cannot occur.
Characters that the composed form of a text replaces anyway are not listed.
-/
namespace Classwright.Domain

/-- Turning points of the characters that cannot occur, from U+0080 on. -/
def refusedText : String :=
  "80 20 2D8 2 6 4 7 1 1 1 14 1 18D 1 26 2 32 2 3 1 37 8 1B 4 6 11 16 1 C0 1 30 2 3B 2 65 E 3B 2
  31 2 F 1 1C 2 1 1 B 5 20 7 4B 1 A1 1 8 2 2 2 16 1 7 1 1 3 4 2 9 2 2 2 4 8 1 4 2 1 5 2 19 2 3 1
  6 4 2 2 16 1 7 1 2 1 2 1 2 2 1 1 5 4 2 2 3 3 1 7 4 1 1 7 11 A 3 1 9 1 3 1 16 1 7 1 2 1 5 2 A 1
  3 1 3 2 1 F 4 2 C 7 7 1 3 1 8 2 2 2 16 1 7 1 2 1 5 2 9 2 2 2 3 7 3 4 2 1 5 2 12 A 2 1 6 3 3 1 4
  3 2 1 1 1 2 3 2 3 3 3 C 4 5 3 3 1 4 2 1 6 1 E 15 5 D 1 3 1 17 1 10 2 9 1 3 1 4 7 2 1 3 1 2 2 4
  2 A 7 16 1 3 1 17 1 A 1 5 2 9 1 3 1 4 7 2 5 3 1 4 2 A 1 3 C D 1 3 1 33 1 3 1 6 4 10 2 1A 1 3 1
  12 3 18 1 9 1 1 2 7 3 1 4 6 1 1 1 8 6 A 2 3 C 3A 4 1D 25 2 1 1 1 5 1 18 1 1 1 17 2 5 1 1 1 7 1
  A 2 4 20 48 1 24 4 27 1 24 1 F 1 D 25 C6 1 1 5 1 2 179 1 4 2 7 1 1 1 4 2 29 1 4 2 21 1 4 2 7 1
  1 1 4 2 F 1 39 1 4 2 43 2 20 3 1A 6 56 2 6 2 280 1 1C 3 59 7 16 9 18 9 14 C D 1 3 1 2 C 5E 2 A
  6 A 6 1A 6 59 7 2B 5 46 A 1F 1 C 4 C 4 1 3 2A 2 5 B 2C 4 1A 6 B 3 3E 2 41 1 1D 2 B 6 A 6 E 2 2E
  2 C 14 4D 1 A6 8 3C 3 F 3 3E 5 2B 2 B 8 2B 5 216 2 6 2 26 2 6 2 8 1 1 1 1 1 1 1 1F 2 35 1 F 1 E
  2 6 1 13 2 3 1 9 1 E 2 14 3 1 7 36 5 8 2 1B 1 D 3 22 E 21 F 8C 4 29A 16 B 15 28 14 6D8 2 17E 5
  2D 1 1 5 1 2 38 7 2 E 18 9 7 1 7 1 7 1 7 1 7 1 7 1 7 1 7 1 7E 22 1A 1 59 C D6 2A 40 1 56 2 67 5
  2B 1 5E 1 56 A 2F 1 1A2 1 4 1 10 1 70B4 3 37 9 15C 14 B8 8 DD 14 3C 3 A 6 38 8 46 8 C 6 74 B 1E
  3 4E 1 B 4 21 1 37 9 E 2 A 2 67 18 1C A 6 2 6 2 6 9 7 1 7 1 3C 4 7E 2 A 6 2BA4 C 17 4 31 2104
  16E 2 6A 26 7 C 5 5 1A 1 5 1 1 1 2 1 2 1 28A 20 22 1 6 7 10 1 21 2 13 1 4 4 5 1 87 2 1 1 BE 3 6
  2 6 2 6 2 3 3 7 1 7 11 C 1 1A 1 13 1 2 1 F 2 E 22 7B 5 3 4 2D 3 58 1 D 3 1 2F 2E 82 1D 3 31 F
  1C 4 24 9 1E 5 2B 5 1E 1 25 4 E 2A 9E 2 A 6 24 4 24 4 28 8 34 B C 1 F 1 7 1 2 1 B 1 F 1 7 1 2 3
  34 C 137 9 16 A 8 18 6 1 2A 1 9 45 6 2 1 1 2C 1 2 3 1 2 17 1 48 8 9 30 13 1 2 5 21 3 1B 5 1B 26
  38 4 14 2 32 1 2 5 8 1 3 1 1D 2 3 4 A 7 9 7 40 20 27 4 C 9 36 3 1D 2 1B 5 1A 7 4 C 7 50 49 37
  33 D 33 7 2E 8 A 6 26 3 1D 8 2 D0 1F 1 2A 1 3 2 2 10 6 8 9 21 2E 8 2A 16 1A 26 1C 14 17 9 4E 4
  24 9 3E 1 5 D 19 7 A 6 35 1 12 8 27 9 60 1 14 B 12 1 2F 3E 7 1 1 1 4 1 F 1 B 6 3B 5 A 6 4 1 8 2
  2 2 16 1 7 1 2 1 5 1 A 2 2 2 3 2 1 6 1 5 7 2 7 3 5 B A 1 1 2 1 1 26 1 A 1 1 2 1 1 4 1 A 1 2 8 2
  1D 5C 1 5 1E 48 8 A A6 36 2 26 22 45 B A 6 D 13 3A 6 A 6 14 1C 1B 2 F 4 17 B9 3C 64 53 C 8 2 1
  2 8 1 2 1 1E 1 2 2 C 9 A 46 8 2 2E 2 B 1B 48 8 53 D 49 7 A 56 8 58 22 E A 6 9 1 2D 1 E A 1D 3
  20 2 16 1 E 49 7 1 2 1 2C 3 1 1 2 1 9 8 A 6 6 1 2 1 25 1 2 1 6 7 A 6 2C 4 A F6 19 7 11 1 29 3
  1D 55 1 F 32 D 39B 66 6F 1 5 B C4 A4C 63 D 430 10 16 A F9B 5 247 1AB9 3A 6C6 239 7 1F 1 A 4 51
  1 A 6 1E 2 6 A 46 A A 1 7 1 15 5 13 1B0 3A C6 5B 5 19 2 19 2C 4B 4 39 7 11 40 5 B 7 9 1CD6 29
  20 61 73 21FD 4 1 7 1 2 1 123 F 1 1D 3 2 1 E 4 8 18C 904 6B 5 D 3 9 7 A 2 8 F5C FD 3 1B4 6 17 F
  11 F 2E 2 17 9 74 3C F6 A 27 2 C2 15 46 7A 14 C 14 C 57 9 19 87 55 1 47 1 2 2 1 2 2 2 4 1 C 1 1
  1 7 1 41 1 4 2 8 1 7 1 1C 1 4 1 5 1 1 3 7 1 154 2 124 2 2BE F 5 1 F 450 1F 6 6 D5 7 1 11 2 7 1
  2 1 5 5 3E 21 1 70 2D 3 E 2 A 4 2 140 1F 11 3A 5 1 1D0 2A D6 2B 4 1 C0 1F 1 16 8 2 E0 7 1 4 1 2
  1 F 1 C5 2 10 29 4C 4 A 4 2 311 44 4C 3D C2 4 1 1B 1 2 1 1 2 1 1 A 1 4 1 1 1 1 6 1 4 1 1 1 1 1
  1 3 1 2 1 1 2 1 1 1 1 1 1 1 1 1 1 2 1 1 2 4 1 7 1 4 1 4 1 1 1 A 1 11 5 3 1 5 1 11 34 2 10E 2C 4
  64 C F 2 F 1 F 1 25 B AD 38 1D D 2C 4 9 7 2 E 6 9A 3D9 3 11 3 D 3 DA 6 C 4 1 F C 4 38 8 A 6 28
  8 1E 2 C 4 2 E 9 27 158 8 E 2 D 3 B 3 39 1 1 4 10 2 C 4 A 7 93 1 67 405 A6E0 20 111E 2 168E 2
  1D31 F 26E 9A2 21E 5E2 134B 5 212A ACC86 F0"

/-- Turning points of the characters that are left out. -/
def ignoredText : String :=
  "AD 1 2A1 1 E0F 2 653 2 55 5 7FB 1 54 5 5 6 10F4 1 CC9B 10 EF 1 A0 1 BCFF 4 14CF 8 C2F85 F0"

/-- Runs of characters that map to one character: where each begins, how many there are, the
distance between them, and where their images begin. -/
def mappedRunRows : String :=
  "A0 1 1 20, A 1 1 61, 8 2 1 32, 3 1 1 3BC, 4 1 1 31, 1 1 1 6F, 6 17 1 E0, 18 7 1 F8, 28 18 2
  101, 34 2 2 135, 5 3 2 13A, 8 4 2 142, 9 17 2 14B, 2E 1 1 FF, 1 3 2 17A, 6 1 1 73, 2 1 1 253, 1
  2 2 183, 4 1 1 254, 1 1 1 188, 2 2 1 256, 2 1 1 18C, 3 1 1 1DD, 1 1 1 259, 1 1 1 25B, 1 1 1
  192, 2 1 1 260, 1 1 1 263, 2 1 1 269, 1 1 1 268, 1 1 1 199, 4 1 1 26F, 1 1 1 272, 2 1 1 275, 1
  3 2 1A1, 6 1 1 280, 1 1 1 1A8, 2 1 1 283, 3 1 1 1AD, 2 1 1 288, 1 1 1 1B0, 2 2 1 28A, 2 2 2
  1B4, 4 1 1 292, 1 1 1 1B9, 4 1 1 1BD, 11 8 2 1CE, 11 9 2 1DF, 16 1 1 1F5, 2 1 1 195, 1 1 1 1BF,
  1 14 2 1F9, 28 1 1 19E, 2 9 2 223, 18 1 1 2C65, 1 1 1 23C, 2 1 1 19A, 1 1 1 2C66, 3 1 1 242, 2
  1 1 180, 1 1 1 289, 1 1 1 28C, 1 5 2 247, 6A 1 1 68, 1 1 1 266, 1 1 1 6A, 1 1 1 72, 1 1 1 279,
  1 1 1 27B, 1 1 1 281, 1 1 1 77, 1 1 1 79, 28 1 1 263, 1 1 1 6C, 1 1 1 73, 1 1 1 78, 1 1 1 295,
  61 1 1 3B9, 2B 2 2 371, 6 1 1 377, 9 1 1 3F3, 7 1 1 3AC, 2 3 1 3AD, 4 1 1 3CC, 2 2 1 3CD, 3 11
  1 3B1, 12 9 1 3C3, 2C 1 1 3D7, 1 1 1 3B2, 1 1 1 3B8, 1 1 1 3C5, 1 1 1 3CD, 1 1 1 3CB, 1 1 1
  3C6, 1 1 1 3C0, 2 C 2 3D9, 18 1 1 3BA, 1 1 1 3C1, 1 1 1 3C3, 2 1 1 3B8, 1 1 1 3B5, 2 1 1 3F8, 2
  1 1 3C3, 1 1 1 3FB, 3 3 1 37B, 3 10 1 450, 10 20 1 430, 50 11 2 461, 2A 1B 2 48B, 36 1 1 4CF, 1
  7 2 4C2, F 30 2 4D1, 61 26 1 561, 9DB 1 1 F0B, 194 26 1 2D00, 27 1 1 2D27, 6 1 1 2D2D, 2F 1 1
  10DC, 2FC 6 1 13F0, 888 1 1 432, 1 1 1 434, 1 1 1 43E, 1 2 1 441, 2 1 1 442, 1 1 1 44A, 1 1 1
  463, 1 1 1 A64B, 1 1 1 1C8A, 7 2B 1 10D0, 2D 3 1 10FD, 6F 1 1 61, 1 1 1 E6, 1 2 2 62, 3 1 1 65,
  1 1 1 1DD, 1 8 1 67, 9 1 1 6F, 1 1 1 223, 1 1 1 70, 1 1 1 72, 1 2 1 74, 2 1 1 77, 1 1 1 61, 1 2
  1 250, 2 1 1 1D02, 1 1 1 62, 1 2 1 64, 2 1 1 259, 1 2 1 25B, 2 1 1 67, 2 1 1 6B, 1 1 1 6D, 1 1
  1 14B, 1 1 1 6F, 1 1 1 254, 1 2 1 1D16, 2 1 1 70, 1 2 1 74, 2 1 1 1D1D, 1 1 1 26F, 1 1 1 76, 1
  1 1 1D25, 1 3 1 3B2, 3 2 1 3C6, 2 1 1 69, 1 1 1 72, 1 2 1 75, 2 2 1 3B2, 2 1 1 3C1, 1 2 1 3C6,
  F 1 1 43D, 23 1 1 252, 1 1 1 63, 1 1 1 255, 1 1 1 F0, 1 1 1 25C, 1 1 1 66, 1 1 1 25F, 1 1 1
  261, 1 1 1 265, 1 3 1 268, 3 1 1 1D7B, 1 1 1 29D, 1 1 1 26D, 1 1 1 1D85, 1 1 1 29F, 1 1 1 271,
  1 1 1 270, 1 4 1 272, 4 1 1 278, 1 2 1 282, 2 1 1 1AB, 1 2 1 289, 2 1 1 1D1C, 1 2 1 28B, 2 1 1
  7A, 1 3 1 290, 3 1 1 3B8, 41 4B 2 1E01, 9B 1 1 1E61, 3 1 1 DF, 2 30 2 1EA1, 68 8 1 1F00, 10 6 1
  1F10, 10 8 1 1F20, 10 8 1 1F30, 10 6 1 1F40, 11 4 2 1F51, F 8 1 1F60, 50 2 1 1FB0, 2 1 1 1F70,
  1 1 1 3AC, D 1 1 1F72, 1 1 1 3AD, 1 1 1 1F74, 1 1 1 3AE, D 2 1 1FD0, 2 1 1 1F76, 1 1 1 3AF, D 2
  1 1FE0, 2 1 1 1F7A, 1 1 1 3CD, 1 1 1 1FE5, C 1 1 1F78, 1 1 1 3CC, 1 1 1 1F7C, 1 1 1 3CE, 5 1 1
  20, 1 1 1 20, 1 1 1 20, 1 1 1 20, 1 1 1 20, 1 1 1 20, 1 1 1 20, 1 1 1 20, 1 1 1 20, 1 1 1 20, 1
  1 1 20, 7 1 1 2010, 1E 1 1 20, 30 1 1 20, 11 1 1 30, 1 1 1 69, 3 6 1 34, 6 1 1 2B, 1 1 1 2212,
  1 1 1 3D, 1 2 1 28, 2 1 1 6E, 1 A 1 30, A 1 1 2B, 1 1 1 2212, 1 1 1 3D, 1 2 1 28, 3 1 1 61, 1 1
  1 65, 1 1 1 6F, 1 1 1 78, 1 1 1 259, 1 1 1 68, 1 4 1 6B, 4 1 1 70, 1 2 1 73, 67 1 1 63, 5 1 1
  25B, 3 2 1 67, 2 1 1 68, 1 1 1 68, 1 1 1 68, 1 1 1 127, 1 1 1 69, 1 1 1 69, 1 1 1 6C, 1 2 2 6C,
  6 3 1 70, 3 1 1 72, 1 1 1 72, 7 1 1 7A, 2 1 1 3C9, 2 1 1 7A, 2 1 1 6B, 1 1 1 E5, 1 2 1 62, 3 1
  1 65, 1 2 1 65, 2 1 1 214E, 1 1 1 6D, 1 1 1 6F, 1 4 1 5D0, 4 1 1 69, 3 1 1 3C0, 1 1 1 3B3, 1 1
  1 3B3, 1 1 1 3C0, 1 1 1 2211, 5 1 1 64, 1 2 1 64, 2 2 1 69, 18 1 1 69, 4 1 1 76, 5 1 1 78, 3 1
  1 6C, 1 2 1 63, 2 1 1 6D, 1 1 1 69, 4 1 1 76, 5 1 1 78, 3 1 1 6C, 1 2 1 63, 2 1 1 6D, 4 1 1
  2184, 2DD 9 1 31, 56 1A 1 61, 1A 1A 1 61, 1A 1 1 30, 716 30 1 2C30, 60 1 1 2C61, 2 1 1 26B, 1 1
  1 1D7D, 1 1 1 27D, 3 3 2 2C68, 6 1 1 251, 1 1 1 271, 1 1 1 250, 1 1 1 252, 2 1 1 2C73, 3 1 1
  2C76, 7 1 1 6A, 1 1 1 76, 1 2 1 23F, 2 32 2 2C81, 6B 2 2 2CEC, 7 1 1 2CF3, 7D 1 1 2D61, 130 1 1
  6BCD, 54 1 1 9F9F, D 1 1 4E00, 1 1 1 4E28, 1 1 1 4E36, 1 1 1 4E3F, 1 1 1 4E59, 1 1 1 4E85, 1 1
  1 4E8C, 1 1 1 4EA0, 1 1 1 4EBA, 1 1 1 513F, 1 1 1 5165, 1 1 1 516B, 1 1 1 5182, 1 1 1 5196, 1 1
  1 51AB, 1 1 1 51E0, 1 1 1 51F5, 1 1 1 5200, 1 1 1 529B, 1 1 1 52F9, 1 1 1 5315, 1 1 1 531A, 1 1
  1 5338, 1 1 1 5341, 1 1 1 535C, 1 1 1 5369, 1 1 1 5382, 1 1 1 53B6, 1 1 1 53C8, 1 1 1 53E3, 1 1
  1 56D7, 1 1 1 571F, 1 1 1 58EB, 1 1 1 5902, 1 1 1 590A, 1 1 1 5915, 1 1 1 5927, 1 1 1 5973, 1 1
  1 5B50, 1 1 1 5B80, 1 1 1 5BF8, 1 1 1 5C0F, 1 1 1 5C22, 1 1 1 5C38, 1 1 1 5C6E, 1 1 1 5C71, 1 1
  1 5DDB, 1 1 1 5DE5, 1 1 1 5DF1, 1 1 1 5DFE, 1 1 1 5E72, 1 1 1 5E7A, 1 1 1 5E7F, 1 1 1 5EF4, 1 1
  1 5EFE, 1 1 1 5F0B, 1 1 1 5F13, 1 1 1 5F50, 1 1 1 5F61, 1 1 1 5F73, 1 1 1 5FC3, 1 1 1 6208, 1 1
  1 6236, 1 1 1 624B, 1 1 1 652F, 1 1 1 6534, 1 1 1 6587, 1 1 1 6597, 1 1 1 65A4, 1 1 1 65B9, 1 1
  1 65E0, 1 1 1 65E5, 1 1 1 66F0, 1 1 1 6708, 1 1 1 6728, 1 1 1 6B20, 1 1 1 6B62, 1 1 1 6B79, 1 1
  1 6BB3, 1 1 1 6BCB, 1 1 1 6BD4, 1 1 1 6BDB, 1 1 1 6C0F, 1 1 1 6C14, 1 1 1 6C34, 1 1 1 706B, 1 1
  1 722A, 1 1 1 7236, 1 1 1 723B, 1 1 1 723F, 1 1 1 7247, 1 1 1 7259, 1 1 1 725B, 1 1 1 72AC, 1 1
  1 7384, 1 1 1 7389, 1 1 1 74DC, 1 1 1 74E6, 1 1 1 7518, 1 1 1 751F, 1 1 1 7528, 1 1 1 7530, 1 1
  1 758B, 1 1 1 7592, 1 1 1 7676, 1 1 1 767D, 1 1 1 76AE, 1 1 1 76BF, 1 1 1 76EE, 1 1 1 77DB, 1 1
  1 77E2, 1 1 1 77F3, 1 1 1 793A, 1 1 1 79B8, 1 1 1 79BE, 1 1 1 7A74, 1 1 1 7ACB, 1 1 1 7AF9, 1 1
  1 7C73, 1 1 1 7CF8, 1 1 1 7F36, 1 1 1 7F51, 1 1 1 7F8A, 1 1 1 7FBD, 1 1 1 8001, 1 1 1 800C, 1 1
  1 8012, 1 1 1 8033, 1 1 1 807F, 1 1 1 8089, 1 1 1 81E3, 1 1 1 81EA, 1 1 1 81F3, 1 1 1 81FC, 1 1
  1 820C, 1 1 1 821B, 1 1 1 821F, 1 1 1 826E, 1 1 1 8272, 1 1 1 8278, 1 1 1 864D, 1 1 1 866B, 1 1
  1 8840, 1 1 1 884C, 1 1 1 8863, 1 1 1 897E, 1 1 1 898B, 1 1 1 89D2, 1 1 1 8A00, 1 1 1 8C37, 1 1
  1 8C46, 1 1 1 8C55, 1 1 1 8C78, 1 1 1 8C9D, 1 1 1 8D64, 1 1 1 8D70, 1 1 1 8DB3, 1 1 1 8EAB, 1 1
  1 8ECA, 1 1 1 8F9B, 1 1 1 8FB0, 1 1 1 8FB5, 1 1 1 9091, 1 1 1 9149, 1 1 1 91C6, 1 1 1 91CC, 1 1
  1 91D1, 1 1 1 9577, 1 1 1 9580, 1 1 1 961C, 1 1 1 96B6, 1 1 1 96B9, 1 1 1 96E8, 1 1 1 9751, 1 1
  1 975E, 1 1 1 9762, 1 1 1 9769, 1 1 1 97CB, 1 1 1 97ED, 1 1 1 97F3, 1 1 1 9801, 1 1 1 98A8, 1 1
  1 98DB, 1 1 1 98DF, 1 1 1 9996, 1 1 1 9999, 1 1 1 99AC, 1 1 1 9AA8, 1 1 1 9AD8, 1 1 1 9ADF, 1 1
  1 9B25, 1 1 1 9B2F, 1 1 1 9B32, 1 1 1 9B3C, 1 1 1 9B5A, 1 1 1 9CE5, 1 1 1 9E75, 1 1 1 9E7F, 1 1
  1 9EA5, 1 1 1 9EBB, 1 1 1 9EC3, 1 1 1 9ECD, 1 1 1 9ED1, 1 1 1 9EF9, 1 1 1 9EFD, 1 1 1 9F0E, 1 1
  1 9F13, 1 1 1 9F20, 1 1 1 9F3B, 1 1 1 9F4A, 1 1 1 9F52, 1 1 1 9F8D, 1 1 1 9F9C, 1 1 1 9FA0, 2B
  1 1 20, 2 1 1 2E, 34 1 1 3012, 2 1 1 5341, 1 2 1 5344, F8 2 1 1100, 2 1 1 11AA, 1 1 1 1102, 1 2
  1 11AC, 2 3 1 1103, 3 6 1 11B0, 6 1 1 111A, 1 3 1 1106, 3 1 1 1121, 1 A 1 1109, A 15 1 1161, 16
  2 1 1114, 2 2 1 11C7, 2 1 1 11CC, 1 1 1 11CE, 1 1 1 11D3, 1 1 1 11D7, 1 1 1 11D9, 1 1 1 111C, 1
  1 1 11DD, 1 1 1 11DF, 1 2 1 111D, 2 1 1 1120, 1 2 1 1122, 2 1 1 1127, 1 1 1 1129, 1 5 1 112B, 5
  1 1 1132, 1 1 1 1136, 1 1 1 1140, 1 1 1 1147, 1 1 1 114C, 1 2 1 11F1, 2 3 1 1157, 3 2 1 1184, 2
  1 1 1188, 1 2 1 1191, 2 1 1 1194, 1 1 1 119E, 1 1 1 11A1, 4 1 1 4E00, 1 1 1 4E8C, 1 1 1 4E09, 1
  1 1 56DB, 1 1 1 4E0A, 1 1 1 4E2D, 1 1 1 4E0B, 1 1 1 7532, 1 1 1 4E59, 1 1 1 4E19, 1 1 1 4E01, 1
  1 1 5929, 1 1 1 5730, 1 1 1 4EBA, A5 1 1 554F, 1 1 1 5E7C, 1 1 1 6587, 1 1 1 7B8F, 19 1 1 1100,
  1 2 1 1102, 2 3 1 1105, 3 1 1 1109, 1 2 1 110B, 2 5 1 110E, 5 1 1 AC00, 1 1 1 B098, 1 1 1 B2E4,
  1 1 1 B77C, 1 1 1 B9C8, 1 1 1 BC14, 1 1 1 C0AC, 1 1 1 C544, 1 1 1 C790, 1 1 1 CC28, 1 1 1 CE74,
  1 1 1 D0C0, 1 1 1 D30C, 1 1 1 D558, 3 1 1 C6B0, 2 1 1 4E00, 1 1 1 4E8C, 1 1 1 4E09, 1 1 1 56DB,
  1 1 1 4E94, 1 1 1 516D, 1 1 1 4E03, 1 1 1 516B, 1 1 1 4E5D, 1 1 1 5341, 1 1 1 6708, 1 1 1 706B,
  1 1 1 6C34, 1 1 1 6728, 1 1 1 91D1, 1 1 1 571F, 1 1 1 65E5, 1 1 1 682A, 1 1 1 6709, 1 1 1 793E,
  1 1 1 540D, 1 1 1 7279, 1 1 1 8CA1, 1 1 1 795D, 1 1 1 52B4, 1 1 1 79D8, 1 1 1 7537, 1 1 1 5973,
  1 1 1 9069, 1 1 1 512A, 1 1 1 5370, 1 1 1 6CE8, 1 1 1 9805, 1 1 1 4F11, 1 1 1 5199, 1 1 1 6B63,
  1 1 1 4E0A, 1 1 1 4E2D, 1 1 1 4E0B, 1 1 1 5DE6, 1 1 1 53F3, 1 1 1 533B, 1 1 1 5B97, 1 1 1 5B66,
  1 1 1 76E3, 1 1 1 4F01, 1 1 1 8CC7, 1 1 1 5354, 1 1 1 591C, 20 1 1 30A2, 1 1 1 30A4, 1 1 1
  30A6, 1 1 1 30A8, 1 2 1 30AA, 2 1 1 30AD, 1 1 1 30AF, 1 1 1 30B1, 1 1 1 30B3, 1 1 1 30B5, 1 1 1
  30B7, 1 1 1 30B9, 1 1 1 30BB, 1 1 1 30BD, 1 1 1 30BF, 1 1 1 30C1, 1 1 1 30C4, 1 1 1 30C6, 1 1 1
  30C8, 1 6 1 30CA, 6 1 1 30D2, 1 1 1 30D5, 1 1 1 30D8, 1 1 1 30DB, 1 5 1 30DE, 5 1 1 30E4, 1 1 1
  30E6, 1 6 1 30E8, 6 4 1 30EF, 7345 17 2 A641, 40 E 2 A681, 1C 1 1 44A, 1 1 1 44C, 85 7 2 A723,
  10 1F 2 A733, 3E 1 1 A76F, 9 2 2 A77A, 4 1 1 1D79, 1 5 2 A77F, D 1 1 A78C, 2 1 1 265, 3 2 2
  A791, 6 A 2 A797, 14 1 1 266, 1 1 1 25C, 1 1 1 261, 1 1 1 26C, 1 1 1 26A, 2 1 1 29E, 1 1 1 287,
  1 1 1 29D, 1 1 1 AB53, 1 8 2 A7B5, 10 1 1 A794, 1 1 1 282, 1 1 1 1D8E, 1 2 2 A7C8, 4 1 1 264, 1
  8 2 A7CD, 10 1 1 19B, 15 1 1 73, 1 1 1 63, 1 1 1 66, 1 1 1 71, 1 1 1 A7F6, 3 1 1 127, 1 1 1
  153, 363 1 1 A727, 1 1 1 AB37, 1 1 1 26B, 1 1 1 AB52, A 1 1 28D, 7 50 1 13A0, 4FB0 1 1 5E2, 1 1
  1 5D0, 1 2 1 5D3, 2 3 1 5DB, 3 1 1 5E8, 1 1 1 5EA, 1 1 1 2B, 27 1 1 671, 1 1 1 671, 1 1 1 67B,
  1 1 1 67B, 1 1 1 67B, 1 1 1 67B, 1 1 1 67E, 1 1 1 67E, 1 1 1 67E, 1 1 1 67E, 1 1 1 680, 1 1 1
  680, 1 1 1 680, 1 1 1 680, 1 1 1 67A, 1 1 1 67A, 1 1 1 67A, 1 1 1 67A, 1 1 1 67F, 1 1 1 67F, 1
  1 1 67F, 1 1 1 67F, 1 1 1 679, 1 1 1 679, 1 1 1 679, 1 1 1 679, 1 1 1 6A4, 1 1 1 6A4, 1 1 1
  6A4, 1 1 1 6A4, 1 1 1 6A6, 1 1 1 6A6, 1 1 1 6A6, 1 1 1 6A6, 1 1 1 684, 1 1 1 684, 1 1 1 684, 1
  1 1 684, 1 1 1 683, 1 1 1 683, 1 1 1 683, 1 1 1 683, 1 1 1 686, 1 1 1 686, 1 1 1 686, 1 2 1
  686, 2 1 1 687, 1 1 1 687, 1 1 1 687, 1 1 1 68D, 1 1 1 68D, 1 1 1 68C, 1 1 1 68C, 1 1 1 68E, 1
  1 1 68E, 1 1 1 688, 1 1 1 688, 1 1 1 698, 1 1 1 698, 1 1 1 691, 1 1 1 691, 1 1 1 6A9, 1 1 1
  6A9, 1 1 1 6A9, 1 1 1 6A9, 1 1 1 6AF, 1 1 1 6AF, 1 1 1 6AF, 1 1 1 6AF, 1 1 1 6B3, 1 1 1 6B3, 1
  1 1 6B3, 1 1 1 6B3, 1 1 1 6B1, 1 1 1 6B1, 1 1 1 6B1, 1 1 1 6B1, 1 1 1 6BA, 1 2 1 6BA, 2 1 1
  6BB, 1 1 1 6BB, 1 1 1 6BB, 1 1 1 6C0, 1 2 1 6C0, 2 1 1 6C1, 1 1 1 6C1, 1 1 1 6C1, 1 1 1 6BE, 1
  1 1 6BE, 1 1 1 6BE, 1 1 1 6BE, 1 1 1 6D2, 1 2 1 6D2, 2 1 1 6D3, 22 1 1 6AD, 1 1 1 6AD, 1 1 1
  6AD, 1 1 1 6AD, 1 1 1 6C7, 1 1 1 6C7, 1 1 1 6C6, 1 1 1 6C6, 1 1 1 6C8, 1 1 1 6C8, 2 1 1 6CB, 1
  1 1 6CB, 1 1 1 6C5, 1 1 1 6C5, 1 1 1 6C9, 1 1 1 6C9, 1 1 1 6D0, 1 1 1 6D0, 1 1 1 6D0, 1 1 1
  6D0, 1 1 1 649, 1 1 1 649, 13 1 1 6CC, 1 1 1 6CC, 1 1 1 6CC, 1 1 1 6CC, 211 1 1 2C, 1 1 1 3001,
  2 2 1 3A, 2 1 1 21, 1 1 1 3F, 1 2 1 3016, 1A 1 1 2014, 1 1 1 2013, 1 1 1 5F, 1 1 1 5F, 1 2 1
  28, 2 1 1 7B, 1 1 1 7D, 1 2 1 3014, 2 2 1 3010, 2 2 1 300A, 2 2 1 3008, 2 4 1 300C, 6 1 1 5B, 1
  1 1 5D, 5 1 1 5F, 1 1 1 5F, 1 1 1 5F, 1 1 1 2C, 1 1 1 3001, 3 1 1 3B, 1 1 1 3A, 1 1 1 3F, 1 1 1
  21, 1 1 1 2014, 1 2 1 28, 2 1 1 7B, 1 1 1 7D, 1 2 1 3014, 2 1 1 23, 1 1 1 26, 1 2 1 2A, 2 1 1
  2D, 1 1 1 3C, 1 1 1 3E, 1 1 1 3D, 2 1 1 5C, 1 2 1 24, 2 1 1 40, 15 2 1 621, 2 2 1 622, 2 2 1
  623, 2 2 1 624, 2 2 1 625, 2 1 1 626, 1 1 1 626, 1 2 1 626, 2 2 1 627, 2 1 1 628, 1 1 1 628, 1
  2 1 628, 2 2 1 629, 2 1 1 62A, 1 1 1 62A, 1 2 1 62A, 2 1 1 62B, 1 1 1 62B, 1 2 1 62B, 2 1 1
  62C, 1 1 1 62C, 1 2 1 62C, 2 1 1 62D, 1 1 1 62D, 1 2 1 62D, 2 1 1 62E, 1 1 1 62E, 1 2 1 62E, 2
  2 1 62F, 2 2 1 630, 2 2 1 631, 2 2 1 632, 2 1 1 633, 1 1 1 633, 1 2 1 633, 2 1 1 634, 1 1 1
  634, 1 2 1 634, 2 1 1 635, 1 1 1 635, 1 2 1 635, 2 1 1 636, 1 1 1 636, 1 2 1 636, 2 1 1 637, 1
  1 1 637, 1 2 1 637, 2 1 1 638, 1 1 1 638, 1 2 1 638, 2 1 1 639, 1 1 1 639, 1 2 1 639, 2 1 1
  63A, 1 1 1 63A, 1 1 1 63A, 1 1 1 641, 1 1 1 641, 1 1 1 641, 1 2 1 641, 2 1 1 642, 1 1 1 642, 1
  2 1 642, 2 1 1 643, 1 1 1 643, 1 2 1 643, 2 1 1 644, 1 1 1 644, 1 2 1 644, 2 1 1 645, 1 1 1
  645, 1 2 1 645, 2 1 1 646, 1 1 1 646, 1 2 1 646, 2 1 1 647, 1 1 1 647, 1 2 1 647, 2 2 1 648, 2
  2 1 649, 2 1 1 64A, 1 1 1 64A, 1 1 1 64A, D 20 1 21, 20 1A 1 61, 1A 24 1 5B, 24 2 1 2985, 2 1 1
  2E, 1 2 1 300C, 2 1 1 3001, 1 1 1 30FB, 1 1 1 30F2, 1 1 1 30A1, 1 1 1 30A3, 1 1 1 30A5, 1 1 1
  30A7, 1 1 1 30A9, 1 1 1 30E3, 1 1 1 30E5, 1 1 1 30E7, 1 1 1 30C3, 1 1 1 30FC, 1 1 1 30A2, 1 1 1
  30A4, 1 1 1 30A6, 1 1 1 30A8, 1 2 1 30AA, 2 1 1 30AD, 1 1 1 30AF, 1 1 1 30B1, 1 1 1 30B3, 1 1 1
  30B5, 1 1 1 30B7, 1 1 1 30B9, 1 1 1 30BB, 1 1 1 30BD, 1 1 1 30BF, 1 1 1 30C1, 1 1 1 30C4, 1 1 1
  30C6, 1 1 1 30C8, 1 6 1 30CA, 6 1 1 30D2, 1 1 1 30D5, 1 1 1 30D8, 1 1 1 30DB, 1 5 1 30DE, 5 1 1
  30E4, 1 1 1 30E6, 1 6 1 30E8, 6 1 1 30EF, 1 1 1 30F3, 1 2 1 3099, 3 2 1 1100, 2 1 1 11AA, 1 1 1
  1102, 1 2 1 11AC, 2 3 1 1103, 3 6 1 11B0, 6 1 1 111A, 1 3 1 1106, 3 1 1 1121, 1 A 1 1109, D 6 1
  1161, 8 6 1 1167, 8 6 1 116D, 8 3 1 1173, 6 2 1 A2, 2 1 1 AC, 2 1 1 A6, 1 1 1 A5, 1 1 1 20A9, 2
  1 1 2502, 1 4 1 2190, 4 1 1 25A0, 1 1 1 25CB, 412 28 1 10428, B0 24 1 104D8, C0 B 1 10597, C F
  1 105A3, 10 7 1 105B3, 8 2 1 105BB, 1ED 2 1 2D0, 2 1 1 E6, 1 1 1 299, 1 1 1 253, 2 1 1 2A3, 1 1
  1 AB66, 1 1 1 2A5, 1 1 1 2A4, 1 2 1 256, 2 1 1 1D91, 1 1 1 258, 1 1 1 25E, 1 1 1 2A9, 1 1 1
  264, 1 1 1 262, 1 1 1 260, 1 1 1 29B, 1 1 1 127, 1 1 1 29C, 1 1 1 267, 1 1 1 284, 1 2 1 2AA, 2
  1 1 26C, 1 1 1 1DF04, 1 1 1 A78E, 1 1 1 26E, 1 1 1 1DF05, 1 1 1 28E, 1 1 1 1DF06, 1 1 1 F8, 1 2
  1 276, 2 1 1 71, 1 1 1 27A, 1 1 1 1DF08, 1 2 1 27D, 2 1 1 280, 1 1 1 2A8, 1 1 1 2A6, 1 1 1
  AB67, 1 1 1 2A7, 1 1 1 288, 1 1 1 2C71, 2 1 1 28F, 1 2 1 2A1, 2 1 1 298, 1 3 1 1C0, 3 1 1
  1DF0A, 1 1 1 1DF1E, 4C6 33 1 10CC0, D0 16 1 10D70, B50 20 1 118C0, 55A0 20 1 16E60, 60 19 1
  16EBB, 5E36 1A 1 61, 1A A 1 30, 710 1A 1 61, 1A 1A 1 61, 1A 1A 1 61, 1A 7 1 61, 8 12 1 69, 12
  1A 1 61, 1A 1A 1 61, 1A 2 2 61, 3 1 1 64, 3 1 1 67, 3 2 1 6A, 4 4 1 6E, 5 8 1 73, 8 4 1 61, 5 2
  2 66, 3 6 1 69, 7 B 1 70, B 1A 1 61, 1A 1A 1 61, 1A 2 1 61, 3 4 1 64, 6 8 1 6A, 9 7 1 73, 8 1A
  1 61, 1A 2 1 61, 3 4 1 64, 5 5 1 69, 6 1 1 6F, 4 7 1 73, 8 1A 1 61, 1A 1A 1 61, 1A 1A 1 61, 1A
  1A 1 61, 1A 1A 1 61, 1A 1A 1 61, 1A 1A 1 61, 1A 1A 1 61, 1A 1A 1 61, 1A 1A 1 61, 1A 1A 1 61, 1A
  1A 1 61, 1A 1A 1 61, 1A 1 1 131, 1 1 1 237, 3 11 1 3B1, 11 1 1 3B8, 1 7 1 3C3, 7 1 1 2207, 1 11
  1 3B1, 11 1 1 3C3, 1 7 1 3C3, 7 1 1 2202, 1 1 1 3B5, 1 1 1 3B8, 1 1 1 3BA, 1 1 1 3C6, 1 1 1
  3C1, 1 1 1 3C0, 1 11 1 3B1, 11 1 1 3B8, 1 7 1 3C3, 7 1 1 2207, 1 11 1 3B1, 11 1 1 3C3, 1 7 1
  3C3, 7 1 1 2202, 1 1 1 3B5, 1 1 1 3B8, 1 1 1 3BA, 1 1 1 3C6, 1 1 1 3C1, 1 1 1 3C0, 1 11 1 3B1,
  11 1 1 3B8, 1 7 1 3C3, 7 1 1 2207, 1 11 1 3B1, 11 1 1 3C3, 1 7 1 3C3, 7 1 1 2202, 1 1 1 3B5, 1
  1 1 3B8, 1 1 1 3BA, 1 1 1 3C6, 1 1 1 3C1, 1 1 1 3C0, 1 11 1 3B1, 11 1 1 3B8, 1 7 1 3C3, 7 1 1
  2207, 1 11 1 3B1, 11 1 1 3C3, 1 7 1 3C3, 7 1 1 2202, 1 1 1 3B5, 1 1 1 3B8, 1 1 1 3BA, 1 1 1
  3C6, 1 1 1 3C1, 1 1 1 3C0, 1 11 1 3B1, 11 1 1 3B8, 1 7 1 3C3, 7 1 1 2207, 1 11 1 3B1, 11 1 1
  3C3, 1 7 1 3C3, 7 1 1 2202, 1 1 1 3B5, 1 1 1 3B8, 1 1 1 3BA, 1 1 1 3C6, 1 1 1 3C1, 1 1 1 3C0, 1
  1 1 3DD, 1 1 1 3DD, 3 A 1 30, A A 1 30, A A 1 30, A A 1 30, A A 1 30, 83A 9 1 430, 9 3 1 43A, 3
  B 1 43E, B 1 1 44B, 1 2 1 44D, 2 1 1 A689, 1 1 1 4D9, 1 1 1 456, 1 1 1 458, 1 1 1 4E9, 1 1 1
  4AF, 1 1 1 4CF, 1 9 1 430, 9 2 1 43A, 2 2 1 43E, 2 1 1 441, 1 6 1 443, 6 2 1 44A, 2 1 1 491, 1
  1 1 456, 1 1 1 455, 1 1 1 45F, 1 1 1 4AB, 1 1 1 A651, 1 1 1 4B1, 893 22 1 1E922, 500 2 1 627, 2
  1 1 62C, 1 1 1 62F, 2 1 1 648, 1 1 1 632, 1 1 1 62D, 1 1 1 637, 1 1 1 64A, 1 4 1 643, 4 1 1
  633, 1 1 1 639, 1 1 1 641, 1 1 1 635, 1 1 1 642, 1 1 1 631, 1 1 1 634, 1 2 1 62A, 2 1 1 62E, 1
  1 1 630, 1 1 1 636, 1 1 1 638, 1 1 1 63A, 1 1 1 66E, 1 1 1 6BA, 1 1 1 6A1, 1 1 1 66F, 2 1 1
  628, 1 1 1 62C, 2 1 1 647, 3 1 1 62D, 2 1 1 64A, 1 4 1 643, 4 1 1 633, 1 1 1 639, 1 1 1 641, 1
  1 1 635, 1 1 1 642, 2 1 1 634, 1 2 1 62A, 2 1 1 62E, 2 1 1 636, 2 1 1 63A, 7 1 1 62C, 5 1 1
  62D, 2 1 1 64A, 2 2 2 644, 3 1 1 633, 1 1 1 639, 2 1 1 635, 1 1 1 642, 2 1 1 634, 3 1 1 62E, 2
  1 1 636, 2 1 1 63A, 2 1 1 6BA, 2 1 1 66F, 2 1 1 628, 1 1 1 62C, 2 1 1 647, 3 1 1 62D, 1 1 1
  637, 1 1 1 64A, 1 2 2 643, 3 1 1 646, 1 1 1 633, 1 1 1 639, 1 1 1 641, 1 1 1 635, 1 1 1 642, 2
  1 1 634, 1 2 1 62A, 2 1 1 62E, 2 1 1 636, 1 1 1 638, 1 1 1 63A, 1 1 1 66E, 2 1 1 6A1, 2 2 1
  627, 2 1 1 62C, 1 1 1 62F, 1 2 1 647, 2 1 1 632, 1 1 1 62D, 1 1 1 637, 1 1 1 64A, 2 3 1 644, 3
  1 1 633, 1 1 1 639, 1 1 1 641, 1 1 1 635, 1 1 1 642, 1 1 1 631, 1 1 1 634, 1 2 1 62A, 2 1 1
  62E, 1 1 1 630, 1 1 1 636, 1 1 1 638, 1 1 1 63A, 6 1 1 628, 1 1 1 62C, 1 1 1 62F, 2 1 1 648, 1
  1 1 632, 1 1 1 62D, 1 1 1 637, 1 1 1 64A, 2 3 1 644, 3 1 1 633, 1 1 1 639, 1 1 1 641, 1 1 1
  635, 1 1 1 642, 1 1 1 631, 1 1 1 634, 1 2 1 62A, 2 1 1 62E, 1 1 1 630, 1 1 1 636, 1 1 1 638, 1
  1 1 63A, 270 1 1 63, 1 1 1 72, 4 1A 1 61, D2 1 1 30B5, E 1 1 624B, 1 1 1 5B57, 1 1 1 53CC, 1 1
  1 30C7, 1 1 1 4E8C, 1 1 1 591A, 1 1 1 89E3, 1 1 1 5929, 1 1 1 4EA4, 1 1 1 6620, 1 1 1 7121, 1 1
  1 6599, 1 1 1 524D, 1 1 1 5F8C, 1 1 1 518D, 1 1 1 65B0, 1 1 1 521D, 1 1 1 7D42, 1 1 1 751F, 1 1
  1 8CA9, 1 1 1 58F0, 1 1 1 5439, 1 1 1 6F14, 1 1 1 6295, 1 1 1 6355, 1 1 1 4E00, 1 1 1 4E09, 1 1
  1 904A, 1 1 1 5DE6, 1 1 1 4E2D, 1 1 1 53F3, 1 1 1 6307, 1 1 1 8D70, 1 1 1 6253, 1 1 1 7981, 1 1
  1 7A7A, 1 1 1 5408, 1 1 1 6E80, 1 1 1 6709, 1 1 1 6708, 1 1 1 7533, 1 1 1 5272, 1 1 1 55B6, 1 1
  1 914D, 15 1 1 5F97, 1 1 1 53EF, 99F A 1 30"

/-- Characters that map to several, with those. -/
def mappedTextRows : String :=
  "A8 20 308, 7 20 304, 5 20 301, 4 20 327, 4 31 2044 34, 1 31 2044 32, 1 33 2044 34, 72 69 307, 2
  69 6A, 1 69 6A, C 6C B7, 1 6C B7, 9 2BC 6E, 7B 64 17E, 1 64 17E, 1 64 17E, 1 6C 6A, 1 6C 6A, 1
  6C 6A, 1 6E 6A, 1 6E 6A, 1 6E 6A, 25 64 7A, 1 64 7A, 1 64 7A, E5 20 306, 1 20 307, 1 20 30A, 1
  20 328, 1 20 303, 1 20 30B, 9D 20 3B9, A 20 301, 1 20 308 301, 202 565 582, EE 627 674, 1 648
  674, 1 6C7 674, 1 64A 674, 7BB E4D E32, 80 ECD EB2, 29 EAB E99, 1 EAB EA1, 9A FB2 F71 F80, 2
  FB3 F71 F80, F21 61 2BE, E6 1F00 3B9, 1 1F01 3B9, 1 1F02 3B9, 1 1F03 3B9, 1 1F04 3B9, 1 1F05
  3B9, 1 1F06 3B9, 1 1F07 3B9, 1 1F00 3B9, 1 1F01 3B9, 1 1F02 3B9, 1 1F03 3B9, 1 1F04 3B9, 1 1F05
  3B9, 1 1F06 3B9, 1 1F07 3B9, 1 1F20 3B9, 1 1F21 3B9, 1 1F22 3B9, 1 1F23 3B9, 1 1F24 3B9, 1 1F25
  3B9, 1 1F26 3B9, 1 1F27 3B9, 1 1F20 3B9, 1 1F21 3B9, 1 1F22 3B9, 1 1F23 3B9, 1 1F24 3B9, 1 1F25
  3B9, 1 1F26 3B9, 1 1F27 3B9, 1 1F60 3B9, 1 1F61 3B9, 1 1F62 3B9, 1 1F63 3B9, 1 1F64 3B9, 1 1F65
  3B9, 1 1F66 3B9, 1 1F67 3B9, 1 1F60 3B9, 1 1F61 3B9, 1 1F62 3B9, 1 1F63 3B9, 1 1F64 3B9, 1 1F65
  3B9, 1 1F66 3B9, 1 1F67 3B9, 3 1F70 3B9, 1 3B1 3B9, 1 3AC 3B9, 3 1FB6 3B9, 5 3B1 3B9, 1 20 313,
  2 20 313, 1 20 342, 1 20 308 342, 1 1F74 3B9, 1 3B7 3B9, 1 3AE 3B9, 3 1FC6 3B9, 5 3B7 3B9, 1 20
  313 300, 1 20 313 301, 1 20 313 342, E 20 314 300, 1 20 314 301, 1 20 314 342, E 20 308 300, 1
  20 308 301, 4 1F7C 3B9, 1 3C9 3B9, 1 3CE 3B9, 3 1FF6 3B9, 5 3C9 3B9, 1 20 301, 1 20 314, 19 20
  333, 1C 2032 2032, 1 2032 2032 2032, 2 2035 2035, 1 2035 2035 2035, 5 21 21, 2 20 305, 9 3F 3F,
  1 3F 21, 1 21 3F, E 2032 2032 2032 2032, 51 72 73, 58 61 2F 63, 1 61 2F 73, 2 B0 63, 2 63 2F
  6F, 1 63 2F 75, 3 B0 66, D 6E 6F, A 73 6D, 1 74 65 6C, 1 74 6D, 19 66 61 78, 15 31 2044 37, 1
  31 2044 39, 1 31 2044 31 30, 1 31 2044 33, 1 32 2044 33, 1 31 2044 35, 1 32 2044 35, 1 33 2044
  35, 1 34 2044 35, 1 31 2044 36, 1 35 2044 36, 1 31 2044 38, 1 33 2044 38, 1 35 2044 38, 1 37
  2044 38, 1 31 2044, 2 69 69, 1 69 69 69, 1 69 76, 2 76 69, 1 76 69 69, 1 76 69 69 69, 1 69 78,
  2 78 69, 1 78 69 69, 6 69 69, 1 69 69 69, 1 69 76, 2 76 69, 1 76 69 69, 1 76 69 69 69, 1 69 78,
  2 78 69, 1 78 69 69, E 30 2044 33, A3 222B 222B, 1 222B 222B 222B, 2 222E 222E, 1 222E 222E
  222E, 239 31 30, 1 31 31, 1 31 32, 1 31 33, 1 31 34, 1 31 35, 1 31 36, 1 31 37, 1 31 38, 1 31
  39, 1 32 30, 1 28 31 29, 1 28 32 29, 1 28 33 29, 1 28 34 29, 1 28 35 29, 1 28 36 29, 1 28 37
  29, 1 28 38 29, 1 28 39 29, 1 28 31 30 29, 1 28 31 31 29, 1 28 31 32 29, 1 28 31 33 29, 1 28 31
  34 29, 1 28 31 35 29, 1 28 31 36 29, 1 28 31 37 29, 1 28 31 38 29, 1 28 31 39 29, 1 28 32 30
  29, 15 28 61 29, 1 28 62 29, 1 28 63 29, 1 28 64 29, 1 28 65 29, 1 28 66 29, 1 28 67 29, 1 28
  68 29, 1 28 69 29, 1 28 6A 29, 1 28 6B 29, 1 28 6C 29, 1 28 6D 29, 1 28 6E 29, 1 28 6F 29, 1 28
  70 29, 1 28 71 29, 1 28 72 29, 1 28 73 29, 1 28 74 29, 1 28 75 29, 1 28 76 29, 1 28 77 29, 1 28
  78 29, 1 28 79 29, 1 28 7A 29, 557 222B 222B 222B 222B, 68 3A 3A 3D, 1 3D 3D, 1 3D 3D 3D, 625
  20 3099, 1 20 309A, 3 3088 308A, 60 30B3 30C8, 101 28 1100 29, 1 28 1102 29, 1 28 1103 29, 1 28
  1105 29, 1 28 1106 29, 1 28 1107 29, 1 28 1109 29, 1 28 110B 29, 1 28 110C 29, 1 28 110E 29, 1
  28 110F 29, 1 28 1110 29, 1 28 1111 29, 1 28 1112 29, 1 28 AC00 29, 1 28 B098 29, 1 28 B2E4 29,
  1 28 B77C 29, 1 28 B9C8 29, 1 28 BC14 29, 1 28 C0AC 29, 1 28 C544 29, 1 28 C790 29, 1 28 CC28
  29, 1 28 CE74 29, 1 28 D0C0 29, 1 28 D30C 29, 1 28 D558 29, 1 28 C8FC 29, 1 28 C624 C804 29, 1
  28 C624 D6C4 29, 2 28 4E00 29, 1 28 4E8C 29, 1 28 4E09 29, 1 28 56DB 29, 1 28 4E94 29, 1 28
  516D 29, 1 28 4E03 29, 1 28 516B 29, 1 28 4E5D 29, 1 28 5341 29, 1 28 6708 29, 1 28 706B 29, 1
  28 6C34 29, 1 28 6728 29, 1 28 91D1 29, 1 28 571F 29, 1 28 65E5 29, 1 28 682A 29, 1 28 6709 29,
  1 28 793E 29, 1 28 540D 29, 1 28 7279 29, 1 28 8CA1 29, 1 28 795D 29, 1 28 52B4 29, 1 28 4EE3
  29, 1 28 547C 29, 1 28 5B66 29, 1 28 76E3 29, 1 28 4F01 29, 1 28 8CC7 29, 1 28 5354 29, 1 28
  796D 29, 1 28 4F11 29, 1 28 81EA 29, 1 28 81F3 29, D 70 74 65, 1 32 31, 1 32 32, 1 32 33, 1 32
  34, 1 32 35, 1 32 36, 1 32 37, 1 32 38, 1 32 39, 1 33 30, 1 33 31, 1 33 32, 1 33 33, 1 33 34, 1
  33 35, 1D CC38 ACE0, 1 C8FC C758, 34 33 36, 1 33 37, 1 33 38, 1 33 39, 1 34 30, 1 34 31, 1 34
  32, 1 34 33, 1 34 34, 1 34 35, 1 34 36, 1 34 37, 1 34 38, 1 34 39, 1 35 30, 1 31 6708, 1 32
  6708, 1 33 6708, 1 34 6708, 1 35 6708, 1 36 6708, 1 37 6708, 1 38 6708, 1 39 6708, 1 31 30
  6708, 1 31 31 6708, 1 31 32 6708, 1 68 67, 1 65 72 67, 1 65 76, 1 6C 74 64, 30 4EE4 548C, 1
  30A2 30D1 30FC 30C8, 1 30A2 30EB 30D5 30A1, 1 30A2 30F3 30DA 30A2, 1 30A2 30FC 30EB, 1 30A4
  30CB 30F3 30B0, 1 30A4 30F3 30C1, 1 30A6 30A9 30F3, 1 30A8 30B9 30AF 30FC 30C9, 1 30A8 30FC
  30AB 30FC, 1 30AA 30F3 30B9, 1 30AA 30FC 30E0, 1 30AB 30A4 30EA, 1 30AB 30E9 30C3 30C8, 1 30AB
  30ED 30EA 30FC, 1 30AC 30ED 30F3, 1 30AC 30F3 30DE, 1 30AE 30AC, 1 30AE 30CB 30FC, 1 30AD 30E5
  30EA 30FC, 1 30AE 30EB 30C0 30FC, 1 30AD 30ED, 1 30AD 30ED 30B0 30E9 30E0, 1 30AD 30ED 30E1
  30FC 30C8 30EB, 1 30AD 30ED 30EF 30C3 30C8, 1 30B0 30E9 30E0, 1 30B0 30E9 30E0 30C8 30F3, 1
  30AF 30EB 30BC 30A4 30ED, 1 30AF 30ED 30FC 30CD, 1 30B1 30FC 30B9, 1 30B3 30EB 30CA, 1 30B3
  30FC 30DD, 1 30B5 30A4 30AF 30EB, 1 30B5 30F3 30C1 30FC 30E0, 1 30B7 30EA 30F3 30B0, 1 30BB
  30F3 30C1, 1 30BB 30F3 30C8, 1 30C0 30FC 30B9, 1 30C7 30B7, 1 30C9 30EB, 1 30C8 30F3, 1 30CA
  30CE, 1 30CE 30C3 30C8, 1 30CF 30A4 30C4, 1 30D1 30FC 30BB 30F3 30C8, 1 30D1 30FC 30C4, 1 30D0
  30FC 30EC 30EB, 1 30D4 30A2 30B9 30C8 30EB, 1 30D4 30AF 30EB, 1 30D4 30B3, 1 30D3 30EB, 1 30D5
  30A1 30E9 30C3 30C9, 1 30D5 30A3 30FC 30C8, 1 30D6 30C3 30B7 30A7 30EB, 1 30D5 30E9 30F3, 1
  30D8 30AF 30BF 30FC 30EB, 1 30DA 30BD, 1 30DA 30CB 30D2, 1 30D8 30EB 30C4, 1 30DA 30F3 30B9, 1
  30DA 30FC 30B8, 1 30D9 30FC 30BF, 1 30DD 30A4 30F3 30C8, 1 30DC 30EB 30C8, 1 30DB 30F3, 1 30DD
  30F3 30C9, 1 30DB 30FC 30EB, 1 30DB 30FC 30F3, 1 30DE 30A4 30AF 30ED, 1 30DE 30A4 30EB, 1 30DE
  30C3 30CF, 1 30DE 30EB 30AF, 1 30DE 30F3 30B7 30E7 30F3, 1 30DF 30AF 30ED 30F3, 1 30DF 30EA, 1
  30DF 30EA 30D0 30FC 30EB, 1 30E1 30AC, 1 30E1 30AC 30C8 30F3, 1 30E1 30FC 30C8 30EB, 1 30E4
  30FC 30C9, 1 30E4 30FC 30EB, 1 30E6 30A2 30F3, 1 30EA 30C3 30C8 30EB, 1 30EA 30E9, 1 30EB 30D4
  30FC, 1 30EB 30FC 30D6 30EB, 1 30EC 30E0, 1 30EC 30F3 30C8 30B2 30F3, 1 30EF 30C3 30C8, 1 30
  70B9, 1 31 70B9, 1 32 70B9, 1 33 70B9, 1 34 70B9, 1 35 70B9, 1 36 70B9, 1 37 70B9, 1 38 70B9, 1
  39 70B9, 1 31 30 70B9, 1 31 31 70B9, 1 31 32 70B9, 1 31 33 70B9, 1 31 34 70B9, 1 31 35 70B9, 1
  31 36 70B9, 1 31 37 70B9, 1 31 38 70B9, 1 31 39 70B9, 1 32 30 70B9, 1 32 31 70B9, 1 32 32 70B9,
  1 32 33 70B9, 1 32 34 70B9, 1 68 70 61, 1 64 61, 1 61 75, 1 62 61 72, 1 6F 76, 1 70 63, 1 64
  6D, 1 64 6D 32, 1 64 6D 33, 1 69 75, 1 5E73 6210, 1 662D 548C, 1 5927 6B63, 1 660E 6CBB, 1 682A
  5F0F 4F1A 793E, 1 70 61, 1 6E 61, 1 3BC 61, 1 6D 61, 1 6B 61, 1 6B 62, 1 6D 62, 1 67 62, 1 63
  61 6C, 1 6B 63 61 6C, 1 70 66, 1 6E 66, 1 3BC 66, 1 3BC 67, 1 6D 67, 1 6B 67, 1 68 7A, 1 6B 68
  7A, 1 6D 68 7A, 1 67 68 7A, 1 74 68 7A, 1 3BC 6C, 1 6D 6C, 1 64 6C, 1 6B 6C, 1 66 6D, 1 6E 6D,
  1 3BC 6D, 1 6D 6D, 1 63 6D, 1 6B 6D, 1 6D 6D 32, 1 63 6D 32, 1 6D 32, 1 6B 6D 32, 1 6D 6D 33, 1
  63 6D 33, 1 6D 33, 1 6B 6D 33, 1 6D 2215 73, 1 6D 2215 73 32, 1 70 61, 1 6B 70 61, 1 6D 70 61,
  1 67 70 61, 1 72 61 64, 1 72 61 64 2215 73, 1 72 61 64 2215 73 32, 1 70 73, 1 6E 73, 1 3BC 73,
  1 6D 73, 1 70 76, 1 6E 76, 1 3BC 76, 1 6D 76, 1 6B 76, 1 6D 76, 1 70 77, 1 6E 77, 1 3BC 77, 1
  6D 77, 1 6B 77, 1 6D 77, 1 6B 3C9, 1 6D 3C9, 2 62 71, 1 63 63, 1 63 64, 1 63 2215 6B 67, 2 64
  62, 1 67 79, 1 68 61, 1 68 70, 1 69 6E, 1 6B 6B, 1 6B 6D, 1 6B 74, 1 6C 6D, 1 6C 6E, 1 6C 6F
  67, 1 6C 78, 1 6D 62, 1 6D 69 6C, 1 6D 6F 6C, 1 70 68, 2 70 70 6D, 1 70 72, 1 73 72, 1 73 76, 1
  77 62, 1 76 2215 6D, 1 61 2215 6D, 1 31 65E5, 1 32 65E5, 1 33 65E5, 1 34 65E5, 1 35 65E5, 1 36
  65E5, 1 37 65E5, 1 38 65E5, 1 39 65E5, 1 31 30 65E5, 1 31 31 65E5, 1 31 32 65E5, 1 31 33 65E5,
  1 31 34 65E5, 1 31 35 65E5, 1 31 36 65E5, 1 31 37 65E5, 1 31 38 65E5, 1 31 39 65E5, 1 32 30
  65E5, 1 32 31 65E5, 1 32 32 65E5, 1 32 33 65E5, 1 32 34 65E5, 1 32 35 65E5, 1 32 36 65E5, 1 32
  37 65E5, 1 32 38 65E5, 1 32 39 65E5, 1 33 30 65E5, 1 33 31 65E5, 1 67 61 6C, C701 66 66, 1 66
  69, 1 66 6C, 1 66 66 69, 1 66 66 6C, 1 73 74, 1 73 74, D 574 576, 1 574 565, 1 574 56B, 1 57E
  576, 1 574 56D, 38 5D0 5DC, 8E 6C7 674, D 626 627, 1 626 627, 1 626 6D5, 1 626 6D5, 1 626 648,
  1 626 648, 1 626 6C7, 1 626 6C7, 1 626 6C6, 1 626 6C6, 1 626 6C8, 1 626 6C8, 1 626 6D0, 1 626
  6D0, 1 626 6D0, 1 626 649, 1 626 649, 1 626 649, 5 626 62C, 1 626 62D, 1 626 645, 1 626 649, 1
  626 64A, 1 628 62C, 1 628 62D, 1 628 62E, 1 628 645, 1 628 649, 1 628 64A, 1 62A 62C, 1 62A
  62D, 1 62A 62E, 1 62A 645, 1 62A 649, 1 62A 64A, 1 62B 62C, 1 62B 645, 1 62B 649, 1 62B 64A, 1
  62C 62D, 1 62C 645, 1 62D 62C, 1 62D 645, 1 62E 62C, 1 62E 62D, 1 62E 645, 1 633 62C, 1 633
  62D, 1 633 62E, 1 633 645, 1 635 62D, 1 635 645, 1 636 62C, 1 636 62D, 1 636 62E, 1 636 645, 1
  637 62D, 1 637 645, 1 638 645, 1 639 62C, 1 639 645, 1 63A 62C, 1 63A 645, 1 641 62C, 1 641
  62D, 1 641 62E, 1 641 645, 1 641 649, 1 641 64A, 1 642 62D, 1 642 645, 1 642 649, 1 642 64A, 1
  643 627, 1 643 62C, 1 643 62D, 1 643 62E, 1 643 644, 1 643 645, 1 643 649, 1 643 64A, 1 644
  62C, 1 644 62D, 1 644 62E, 1 644 645, 1 644 649, 1 644 64A, 1 645 62C, 1 645 62D, 1 645 62E, 1
  645 645, 1 645 649, 1 645 64A, 1 646 62C, 1 646 62D, 1 646 62E, 1 646 645, 1 646 649, 1 646
  64A, 1 647 62C, 1 647 645, 1 647 649, 1 647 64A, 1 64A 62C, 1 64A 62D, 1 64A 62E, 1 64A 645, 1
  64A 649, 1 64A 64A, 1 630 670, 1 631 670, 1 649 670, 1 20 64C 651, 1 20 64D 651, 1 20 64E 651,
  1 20 64F 651, 1 20 650 651, 1 20 651 670, 1 626 631, 1 626 632, 1 626 645, 1 626 646, 1 626
  649, 1 626 64A, 1 628 631, 1 628 632, 1 628 645, 1 628 646, 1 628 649, 1 628 64A, 1 62A 631, 1
  62A 632, 1 62A 645, 1 62A 646, 1 62A 649, 1 62A 64A, 1 62B 631, 1 62B 632, 1 62B 645, 1 62B
  646, 1 62B 649, 1 62B 64A, 1 641 649, 1 641 64A, 1 642 649, 1 642 64A, 1 643 627, 1 643 644, 1
  643 645, 1 643 649, 1 643 64A, 1 644 645, 1 644 649, 1 644 64A, 1 645 627, 1 645 645, 1 646
  631, 1 646 632, 1 646 645, 1 646 646, 1 646 649, 1 646 64A, 1 649 670, 1 64A 631, 1 64A 632, 1
  64A 645, 1 64A 646, 1 64A 649, 1 64A 64A, 1 626 62C, 1 626 62D, 1 626 62E, 1 626 645, 1 626
  647, 1 628 62C, 1 628 62D, 1 628 62E, 1 628 645, 1 628 647, 1 62A 62C, 1 62A 62D, 1 62A 62E, 1
  62A 645, 1 62A 647, 1 62B 645, 1 62C 62D, 1 62C 645, 1 62D 62C, 1 62D 645, 1 62E 62C, 1 62E
  645, 1 633 62C, 1 633 62D, 1 633 62E, 1 633 645, 1 635 62D, 1 635 62E, 1 635 645, 1 636 62C, 1
  636 62D, 1 636 62E, 1 636 645, 1 637 62D, 1 638 645, 1 639 62C, 1 639 645, 1 63A 62C, 1 63A
  645, 1 641 62C, 1 641 62D, 1 641 62E, 1 641 645, 1 642 62D, 1 642 645, 1 643 62C, 1 643 62D, 1
  643 62E, 1 643 644, 1 643 645, 1 644 62C, 1 644 62D, 1 644 62E, 1 644 645, 1 644 647, 1 645
  62C, 1 645 62D, 1 645 62E, 1 645 645, 1 646 62C, 1 646 62D, 1 646 62E, 1 646 645, 1 646 647, 1
  647 62C, 1 647 645, 1 647 670, 1 64A 62C, 1 64A 62D, 1 64A 62E, 1 64A 645, 1 64A 647, 1 626
  645, 1 626 647, 1 628 645, 1 628 647, 1 62A 645, 1 62A 647, 1 62B 645, 1 62B 647, 1 633 645, 1
  633 647, 1 634 645, 1 634 647, 1 643 644, 1 643 645, 1 644 645, 1 646 645, 1 646 647, 1 64A
  645, 1 64A 647, 1 640 64E 651, 1 640 64F 651, 1 640 650 651, 1 637 649, 1 637 64A, 1 639 649, 1
  639 64A, 1 63A 649, 1 63A 64A, 1 633 649, 1 633 64A, 1 634 649, 1 634 64A, 1 62D 649, 1 62D
  64A, 1 62C 649, 1 62C 64A, 1 62E 649, 1 62E 64A, 1 635 649, 1 635 64A, 1 636 649, 1 636 64A, 1
  634 62C, 1 634 62D, 1 634 62E, 1 634 645, 1 634 631, 1 633 631, 1 635 631, 1 636 631, 1 637
  649, 1 637 64A, 1 639 649, 1 639 64A, 1 63A 649, 1 63A 64A, 1 633 649, 1 633 64A, 1 634 649, 1
  634 64A, 1 62D 649, 1 62D 64A, 1 62C 649, 1 62C 64A, 1 62E 649, 1 62E 64A, 1 635 649, 1 635
  64A, 1 636 649, 1 636 64A, 1 634 62C, 1 634 62D, 1 634 62E, 1 634 645, 1 634 631, 1 633 631, 1
  635 631, 1 636 631, 1 634 62C, 1 634 62D, 1 634 62E, 1 634 645, 1 633 647, 1 634 647, 1 637
  645, 1 633 62C, 1 633 62D, 1 633 62E, 1 634 62C, 1 634 62D, 1 634 62E, 1 637 645, 1 638 645, 1
  627 64B, 1 627 64B, 13 62A 62C 645, 1 62A 62D 62C, 1 62A 62D 62C, 1 62A 62D 645, 1 62A 62E 645,
  1 62A 645 62C, 1 62A 645 62D, 1 62A 645 62E, 1 62C 645 62D, 1 62C 645 62D, 1 62D 645 64A, 1 62D
  645 649, 1 633 62D 62C, 1 633 62C 62D, 1 633 62C 649, 1 633 645 62D, 1 633 645 62D, 1 633 645
  62C, 1 633 645 645, 1 633 645 645, 1 635 62D 62D, 1 635 62D 62D, 1 635 645 645, 1 634 62D 645,
  1 634 62D 645, 1 634 62C 64A, 1 634 645 62E, 1 634 645 62E, 1 634 645 645, 1 634 645 645, 1 636
  62D 649, 1 636 62E 645, 1 636 62E 645, 1 637 645 62D, 1 637 645 62D, 1 637 645 645, 1 637 645
  64A, 1 639 62C 645, 1 639 645 645, 1 639 645 645, 1 639 645 649, 1 63A 645 645, 1 63A 645 64A,
  1 63A 645 649, 1 641 62E 645, 1 641 62E 645, 1 642 645 62D, 1 642 645 645, 1 644 62D 645, 1 644
  62D 64A, 1 644 62D 649, 1 644 62C 62C, 1 644 62C 62C, 1 644 62E 645, 1 644 62E 645, 1 644 645
  62D, 1 644 645 62D, 1 645 62D 62C, 1 645 62D 645, 1 645 62D 64A, 1 645 62C 62D, 1 645 62C 645,
  1 645 62E 62C, 1 645 62E 645, 3 645 62C 62E, 1 647 645 62C, 1 647 645 645, 1 646 62D 645, 1 646
  62D 649, 1 646 62C 645, 1 646 62C 645, 1 646 62C 649, 1 646 645 64A, 1 646 645 649, 1 64A 645
  645, 1 64A 645 645, 1 628 62E 64A, 1 62A 62C 64A, 1 62A 62C 649, 1 62A 62E 64A, 1 62A 62E 649,
  1 62A 645 64A, 1 62A 645 649, 1 62C 645 64A, 1 62C 62D 649, 1 62C 645 649, 1 633 62E 649, 1 635
  62D 64A, 1 634 62D 64A, 1 636 62D 64A, 1 644 62C 64A, 1 644 645 64A, 1 64A 62D 64A, 1 64A 62C
  64A, 1 64A 645 64A, 1 645 645 64A, 1 642 645 64A, 1 646 62D 64A, 1 642 645 62D, 1 644 62D 645,
  1 639 645 64A, 1 643 645 64A, 1 646 62C 62D, 1 645 62E 64A, 1 644 62C 645, 1 643 645 645, 1 644
  62C 645, 1 646 62C 62D, 1 62C 62D 64A, 1 62D 62C 64A, 1 645 62C 64A, 1 641 645 64A, 1 628 62D
  64A, 1 643 645 645, 1 639 62C 645, 1 635 645 645, 1 633 62E 64A, 1 646 62C 64A, 29 635 644 6D2,
  1 642 644 6D2, 1 627 644 644 647, 1 627 643 628 631, 1 645 62D 645 62F, 1 635 644 639 645, 1
  631 633 648 644, 1 639 644 64A 647, 1 648 633 644 645, 1 635 644 649, 1 635 644 649 20 627 644
  644 647 20 639 644 64A 647 20 648 633 644 645, 1 62C 644 20 62C 644 627 644 647, 1 631 6CC 627
  644, 4D 20 305, 1 20 305, 1 20 305, 1 20 305, 24 20 64B, 1 640 64B, 1 20 64C, 2 20 64D, 2 20
  64E, 1 640 64E, 1 20 64F, 1 640 64F, 1 20 650, 1 640 650, 1 20 651, 1 640 651, 1 20 652, 1 640
  652, 76 644 622, 1 644 622, 1 644 623, 1 644 623, 1 644 625, 1 644 625, 1 644 627, 1 644 627,
  E7 20 304, F11E 30 2C, 1 31 2C, 1 32 2C, 1 33 2C, 1 34 2C, 1 35 2C, 1 36 2C, 1 37 2C, 1 38 2C,
  1 39 2C, 6 28 61 29, 1 28 62 29, 1 28 63 29, 1 28 64 29, 1 28 65 29, 1 28 66 29, 1 28 67 29, 1
  28 68 29, 1 28 69 29, 1 28 6A 29, 1 28 6B 29, 1 28 6C 29, 1 28 6D 29, 1 28 6E 29, 1 28 6F 29, 1
  28 70 29, 1 28 71 29, 1 28 72 29, 1 28 73 29, 1 28 74 29, 1 28 75 29, 1 28 76 29, 1 28 77 29, 1
  28 78 29, 1 28 79 29, 1 28 7A 29, 1 3014 73 3015, 3 63 64, 1 77 7A, 1C 68 76, 1 6D 76, 1 73 64,
  1 73 73, 1 70 70 76, 1 77 63, 1B 6D 63, 1 6D 64, 1 6D 72, 24 64 6A, 70 307B 304B, 1 30B3 30B3,
  3F 3014 672C 3015, 1 3014 4E09 3015, 1 3014 4E8C 3015, 1 3014 5B89 3015, 1 3014 70B9 3015, 1
  3014 6253 3015, 1 3014 76D7 3015, 1 3014 52DD 3015, 1 3014 6557 3015"

def refusedTurns : List Nat := Table.turns refusedText

def ignoredTurns : List Nat := Table.turns ignoredText

def mappedTexts : List (Nat × List Nat) := Table.placedRows mappedTextRows

/-- The runs of characters that map to one character. -/
def mappedRuns : List CaseRun :=
  (Table.placedRows mappedRunRows).filterMap fun
    | (first, [count, stride, target]) => some ⟨first, first + (count - 1) * stride, stride, target⟩
    | _ => none

def mapChar? (c : Char) : Option Text :=
  let n := c.toNat
  if n < 0x80 then some [c.toLower]
  else if turned ignoredTurns n then some []
  else if turned refusedTurns n then none
  else match mappedRuns.findSome? (·.map? n) with
    | some m => some [Char.ofNat m]
    | none => match mappedTexts.lookup n with
      | some ms => some (ms.map Char.ofNat)
      | none => some [c]

/-- The text that a domain stands for, if all its characters can occur. -/
def mapped? (t : Text) : Option Text := (t.mapM mapChar?).map fun (ts : List Text) => ts.flatten

end Classwright.Domain
