import Classwright.Property.Script
import Classwright.Property.Trait
/-!
# Classes at boundaries

Where a text is divided into clusters, words and sentences depends on classes of the characters.
They follow from other properties, with exceptions.
-/
namespace Classwright

/-- The set of some code points. -/
def CharSet.ofCodes (codes : List Nat) : CharSet := .ofChars (codes.map Char.ofNat)

namespace ClusterBreak

/-- Characters in front of a cluster that belong to it. -/
def prepended : CharSet :=
  (Trait.tabled TraitTable.prependedMarks).union (.ofTurns [0xD4E, 0xD4F, 0x111C2, 0x111C4, 0x113D1,
    0x113D2, 0x1193F, 0x11940, 0x11941, 0x11942, 0x11A3A, 0x11A3B, 0x11A84, 0x11A8A, 0x11D46,
    0x11D47, 0x11F02, 0x11F03])

def extending : CharSet :=
  (Trait.graphemeExtend.union (Trait.tabled TraitTable.emojiModifiers)).diff (.ofCodes [0x200D])

/-- Characters that are clusters of their own. -/
def control : CharSet :=
  let controls := Category.set [.lineSeparator, .paragraphSeparator, .control, .format]
  let reserved := (Category.set [.unassigned]).inter Trait.defaultIgnorable
  let others := (prepended.union extending).union (.ofCodes [0xA, 0xD, 0x200C, 0x200D])
  (controls.union reserved).diff others

/-- Marks with a width that belong to the cluster in front. -/
def spacing : CharSet :=
  let others : CharSet := .ofTurns [0x102B, 0x102D, 0x1038, 0x1039, 0x1062, 0x1065, 0x1067, 0x106E,
    0x1083, 0x1084, 0x1087, 0x108D, 0x108F, 0x1090, 0x109A, 0x109D, 0x1A61, 0x1A62, 0x1A63, 0x1A65,
    0xAA7B, 0xAA7C, 0xAA7D, 0xAA7E, 0x11720, 0x11722]
  (((Category.set [.spacingMark]).union (.ofCodes [0xE33, 0xEB3])).diff extending).diff others

/-- Syllables without a consonant at the end. -/
def openSyllables : CharSet := .ofCodes ((List.range 399).map fun k => 0xAC00 + 28 * k)

/-- The classes with their names; the first one is the one by which they are known here. -/
def names : String :=
  "CR, Control CN, Extend EX, L, LF, LV, LVT, Prepend PP, Regional_Indicator RI, SpacingMark SM, T,
  V, ZWJ"

def set? (name : String) : Option CharSet :=
  match name with
  | "CR" => some (.one '\r')
  | "Control" => some control
  | "Extend" => some extending
  | "L" => some (.ofTurns [0x1100, 0x1160, 0xA960, 0xA97D])
  | "LF" => some (.one '\n')
  | "LV" => some openSyllables
  | "LVT" => some (CharSet.diff (.ofTurns [0xAC00, 0xD7A4]) openSyllables)
  | "Prepend" => some prepended
  | "Regional_Indicator" => Trait.set? name
  | "SpacingMark" => some spacing
  | "T" => some (.ofTurns [0x11A8, 0x1200, 0xD7CB, 0xD7FC])
  | "V" => some (.ofTurns [0x1160, 0x11A8, 0xD7B0, 0xD7C7, 0x16D63, 0x16D64, 0x16D67, 0x16D6B])
  | "ZWJ" => some (.ofCodes [0x200D])
  | _ => none

def ofName? (name : Text) : Option CharSet := do set? (← Name.first? names name)

end ClusterBreak

namespace WordBreak

/-- Characters that extend the one in front. -/
def extending : CharSet :=
  (ClusterBreak.extending.union (Category.set [.spacingMark])).diff (.ofCodes [0x200D])

/-- Characters of Katakana and marks that are written with it. -/
def katakana : CharSet :=
  let marks : CharSet := .ofTurns [0x3031, 0x3036, 0x309B, 0x309D, 0x30A0, 0x30A1, 0x30FC, 0x30FD,
    0xFF70, 0xFF71]
  ((Script.named "Katakana").union marks).diff extending

def hebrewLetters : CharSet := (Script.named "Hebrew").inter (Category.set [.otherLetter])

/-- Digits and marks in front of numbers. -/
def numeric : CharSet :=
  ((Category.set [.decimalNumber]).union (.ofCodes [0x66B])).union
    (Trait.tabled TraitTable.prependedMarks)

/-- Characters of scripts that put no blanks between words. -/
def unspaced : CharSet :=
  (["Thai", "Lao", "Khmer", "Myanmar", "Tai_Le", "New_Tai_Lue", "Tai_Tham", "Tai_Viet", "Ahom",
    "Hiragana"].map Script.named).foldl .union .empty

def letters : CharSet :=
  let marks : CharSet := .ofTurns [0x2C2, 0x2C6, 0x2D2, 0x2D8, 0x2DE, 0x2E0, 0x2E5, 0x2EC, 0x2ED,
    0x2EE, 0x2EF, 0x300, 0x55A, 0x55D, 0x55E, 0x55F, 0x58A, 0x58B, 0x5F3, 0x5F4, 0x70F, 0x710,
    0xA708, 0xA717, 0xA720, 0xA722, 0xA789, 0xA78B, 0xAB5B, 0xAB5C]
  let others := [Trait.tabled TraitTable.ideographs, katakana, unspaced, extending, hebrewLetters]
  others.foldl .diff (Trait.alphabetic.union marks)

/-- The classes with their names; the first one is the one by which they are known here. -/
def names : String :=
  "ALetter LE, CR, Double_Quote DQ, Extend, ExtendNumLet EX, Format FO, Hebrew_Letter HL, Katakana
  KA, LF, MidLetter ML, MidNum MN, MidNumLet MB, Newline NL, Numeric NU, Regional_Indicator RI,
  Single_Quote SQ, WSegSpace, ZWJ"

def set? (name : String) : Option CharSet :=
  match name with
  | "ALetter" => some letters
  | "CR" => some (.one '\r')
  | "Double_Quote" => some (.one '"')
  | "Extend" => some extending
  | "ExtendNumLet" => some ((Category.set [.connector]).union (.ofCodes [0x202F]))
  | "Format" =>
    let others := [numeric, letters, extending, .ofCodes [0x200B, 0x200D]]
    some (others.foldl .diff (Category.set [.format]))
  | "Hebrew_Letter" => some hebrewLetters
  | "Katakana" => some katakana
  | "LF" => some (.one '\n')
  | "MidLetter" =>
    some (.ofCodes [0x3A, 0xB7, 0x387, 0x55F, 0x5F4, 0x2027, 0xFE13, 0xFE55, 0xFF1A])
  | "MidNum" =>
    some (.ofCodes [0x2C, 0x3B, 0x37E, 0x589, 0x60C, 0x60D, 0x66C, 0x7F8, 0x2044, 0xFE10, 0xFE14,
      0xFE50, 0xFE54, 0xFF0C, 0xFF1B])
  | "MidNumLet" => some (.ofCodes [0x2E, 0x2018, 0x2019, 0x2024, 0xFE52, 0xFF07, 0xFF0E])
  | "Newline" => some (.ofCodes [0xB, 0xC, 0x85, 0x2028, 0x2029])
  | "Numeric" => some numeric
  | "Regional_Indicator" => Trait.set? name
  | "Single_Quote" => some (.one '\'')
  | "WSegSpace" =>
    some ((Category.set [.spaceSeparator]).diff (.ofCodes [0xA0, 0x2007, 0x202F]))
  | "ZWJ" => some (.ofCodes [0x200D])
  | _ => none

def ofName? (name : Text) : Option CharSet := do set? (← Name.first? names name)

end WordBreak

namespace SentenceBreak

/-- Characters that extend the one in front. -/
def extending : CharSet :=
  (Trait.graphemeExtend.union (Category.set [.spacingMark])).union (.ofCodes [0x200D])

/-- Lower-case letters. -/
def lower : CharSet :=
  (Trait.lowercase.diff Trait.graphemeExtend).diff (.ofTurns [0x10D0, 0x10FB, 0x10FD, 0x1100])

/-- Upper-case letters. -/
def upper : CharSet :=
  (Trait.uppercase.union (Category.set [.titlecase])).diff
    (.ofTurns [0x1C90, 0x1CBB, 0x1CBD, 0x1CC0])

/-- Letters without case. -/
def otherLetters : CharSet :=
  [lower, upper, extending].foldl .diff (Trait.alphabetic.union (.ofCodes [0x5F3]))

/-- Digits, their separators, and marks in front of numbers. -/
def numeric : CharSet := WordBreak.numeric.union (.ofCodes [0x66C])

def fullStops : CharSet := .ofCodes [0x2E, 0x2024, 0xFE52, 0xFF0E]

/-- Brackets and quotation marks. -/
def closing : CharSet :=
  let quotes : CharSet := .ofTurns [0x22, 0x23, 0x27, 0x28, 0x275B, 0x2761, 0x2E00, 0x2E02, 0x2E06,
    0x2E09, 0x2E0B, 0x2E0C, 0x1F676, 0x1F679]
  (Category.set [.opening, .closing, .initialQuote, .finalQuote]).union quotes

/-- The classes with their names; the first one is the one by which they are known here. -/
def names : String :=
  "ATerm AT, CR, Close CL, Extend EX, Format FO, LF, Lower LO, Numeric NU, OLetter LE, SContinue SC,
  STerm ST, Sep SE, Sp, Upper UP"

def set? (name : String) : Option CharSet :=
  match name with
  | "ATerm" => some fullStops
  | "CR" => some (.one '\r')
  | "Close" => some closing
  | "Extend" => some extending
  | "Format" => some ([numeric, extending].foldl .diff (Category.set [.format]))
  | "LF" => some (.one '\n')
  | "Lower" => some lower
  | "Numeric" => some numeric
  | "OLetter" => some otherLetters
  | "SContinue" =>
    some (.ofCodes [0x2C, 0x2D, 0x3A, 0x3B, 0x37E, 0x55D, 0x60C, 0x60D, 0x7F8, 0x1802, 0x1808,
      0x2013, 0x2014, 0x3001, 0xFE10, 0xFE11, 0xFE13, 0xFE14, 0xFE31, 0xFE32, 0xFE50, 0xFE51,
      0xFE54, 0xFE55, 0xFE58, 0xFE63, 0xFF0C, 0xFF0D, 0xFF1A, 0xFF1B, 0xFF64])
  | "STerm" => some ((Trait.tabled TraitTable.sentenceTerminals).diff fullStops)
  | "Sep" => some (.ofCodes [0x85, 0x2028, 0x2029])
  | "Sp" => some (CharSet.space.diff (.ofCodes [0xA, 0xD, 0x85, 0x2028, 0x2029]))
  | "Upper" => some upper
  | _ => none

def ofName? (name : Text) : Option CharSet := do set? (← Name.first? names name)

end SentenceBreak
end Classwright
