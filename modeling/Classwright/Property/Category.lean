import Classwright.Pattern.CharSet
import Classwright.Text.Table
/-!
# General categories

Each character has one category. The table is that of the sixteenth edition of the character
standard, without surrogates, which are no characters. Names of properties are compared loosely:
case, blanks, hyphens and underscores do not count, and neither do characters that are not ASCII,
nor `is` in front of a name.
-/
namespace Classwright

namespace Name

/-- What counts of a name. -/
def kept (name : Text) : Text :=
  (name.filter fun c => c.toNat < 0x80 && c != ' ' && c != '-' && c != '_').map Char.toLower

/-- A name as it is compared. An `is` in front of a lone `c` belongs to the name. -/
def loose (name : Text) : Text :=
  match name with
  | i :: s :: rest =>
    if i.toLower == 'i' && s.toLower == 's' && kept rest != ['c'] then kept rest else kept name
  | _ => kept name

/-- The names in a text, with blanks or ends of lines between them. -/
def words (names : Text) : List Text :=
  ((names.map fun c => if c == '\n' then ' ' else c).splitOn ' ').filter (!·.isEmpty)

/-- The entries of a text, divided by commas, with the names of each. -/
def entries (text : String) : List (List Text) := (text.toList.splitOn ',').map words

def isAmong (names : List Text) (name : Text) : Bool := names.any (kept · == name)

def place? (text : String) (name : Text) : Option Nat := (entries text).findIdx? (isAmong · name)

/-- The first name of the entry that has a loose name. -/
def first? (text : String) (name : Text) : Option String := do
  let entry ← (entries text).find? (isAmong · name)
  return String.ofList (← entry.head?)

end Name

/-! ## Categories -/

/-- A general category of characters. -/
inductive Category where
  | control
  | format
  | unassigned
  | privateUse
  | lowercase
  | modifierLetter
  | otherLetter
  | titlecase
  | uppercase
  | spacingMark
  | enclosingMark
  | nonspacingMark
  | decimalNumber
  | letterNumber
  | otherNumber
  | connector
  | dash
  | closing
  | finalQuote
  | initialQuote
  | otherPunctuation
  | opening
  | currency
  | modifierSymbol
  | mathSymbol
  | otherSymbol
  | lineSeparator
  | paragraphSeparator
  | spaceSeparator
deriving DecidableEq

namespace Category

def named : List (Category × String) := [
    (control, "Cc Control cntrl"),
    (format, "Cf Format"),
    (unassigned, "Cn Unassigned"),
    (privateUse, "Co Private_Use"),
    (lowercase, "Ll Lowercase_Letter"),
    (modifierLetter, "Lm Modifier_Letter"),
    (otherLetter, "Lo Other_Letter"),
    (titlecase, "Lt Titlecase_Letter"),
    (uppercase, "Lu Uppercase_Letter"),
    (spacingMark, "Mc Spacing_Mark"),
    (enclosingMark, "Me Enclosing_Mark"),
    (nonspacingMark, "Mn Nonspacing_Mark"),
    (decimalNumber, "Nd Decimal_Number digit"),
    (letterNumber, "Nl Letter_Number"),
    (otherNumber, "No Other_Number"),
    (connector, "Pc Connector_Punctuation"),
    (dash, "Pd Dash_Punctuation"),
    (closing, "Pe Close_Punctuation"),
    (finalQuote, "Pf Final_Punctuation"),
    (initialQuote, "Pi Initial_Punctuation"),
    (otherPunctuation, "Po Other_Punctuation"),
    (opening, "Ps Open_Punctuation"),
    (currency, "Sc Currency_Symbol"),
    (modifierSymbol, "Sk Modifier_Symbol"),
    (mathSymbol, "Sm Math_Symbol"),
    (otherSymbol, "So Other_Symbol"),
    (lineSeparator, "Zl Line_Separator"),
    (paragraphSeparator, "Zp Paragraph_Separator"),
    (spaceSeparator, "Zs Space_Separator")]

/-- Letters with case. -/
def casedLetters : List Category := [lowercase, titlecase, uppercase]

def letters : List Category := [lowercase, modifierLetter, otherLetter, titlecase, uppercase]

def groups : List (List Category × String) := [
    ([control, format, unassigned, privateUse], "C Other"),
    (letters, "L Letter"),
    (casedLetters, "LC Cased_Letter"),
    ([spacingMark, enclosingMark, nonspacingMark], "M Mark Combining_Mark"),
    ([decimalNumber, letterNumber, otherNumber], "N Number"),
    ([connector, dash, closing, finalQuote, initialQuote, otherPunctuation, opening],
      "P Punctuation punct"),
    ([currency, modifierSymbol, mathSymbol, otherSymbol], "S Symbol"),
    ([lineSeparator, paragraphSeparator, spaceSeparator], "Z Separator")]

/-- Where the category of characters changes, with the place of the new one among `named`. -/
def rows : String :=
  "0 0, 20 1C, 1 14, 3 16, 1 14, 3 15, 1 11, 1 14, 1 18, 1 14, 1 10, 1 14, 2 C, A 14, 2 18, 3 14,
  2 8, 1A 15, 1 14, 1 11, 1 17, 1 F, 1 17, 1 4, 1A 15, 1 18, 1 11, 1 18, 1 0, 21 1C, 1 14, 1 16,
  4 19, 1 14, 1 17, 1 19, 1 6, 1 13, 1 18, 1 1, 1 19, 1 17, 1 19, 1 18, 1 E, 2 17, 1 4, 1 14, 2
  17, 1 E, 1 6, 1 12, 1 E, 3 14, 1 8, 17 18, 1 8, 7 4, 18 18, 1 4, 8 8, 1 4, 1 8, 1 4, 1 8, 1 4,
  1 8, 1 4, 1 8, 1 4, 1 8, 1 4, 1 8, 1 4, 1 8, 1 4, 1 8, 1 4, 1 8, 1 4, 1 8, 1 4, 1 8, 1 4, 1 8,
  1 4, 1 8, 1 4, 1 8, 1 4, 1 8, 1 4, 1 8, 1 4, 1 8, 1 4, 1 8, 1 4, 1 8, 1 4, 1 8, 1 4, 1 8, 1 4,
  1 8, 1 4, 1 8, 1 4, 1 8, 1 4, 1 8, 1 4, 1 8, 1 4, 1 8, 1 4, 2 8, 1 4, 1 8, 1 4, 1 8, 1 4, 1 8,
  1 4, 1 8, 1 4, 1 8, 1 4, 1 8, 1 4, 1 8, 1 4, 2 8, 1 4, 1 8, 1 4, 1 8, 1 4, 1 8, 1 4, 1 8, 1 4,
  1 8, 1 4, 1 8, 1 4, 1 8, 1 4, 1 8, 1 4, 1 8, 1 4, 1 8, 1 4, 1 8, 1 4, 1 8, 1 4, 1 8, 1 4, 1 8,
  1 4, 1 8, 1 4, 1 8, 1 4, 1 8, 1 4, 1 8, 1 4, 1 8, 1 4, 1 8, 1 4, 1 8, 1 4, 1 8, 1 4, 1 8, 2 4,
  1 8, 1 4, 1 8, 1 4, 3 8, 2 4, 1 8, 1 4, 1 8, 2 4, 1 8, 3 4, 2 8, 4 4, 1 8, 2 4, 1 8, 3 4, 3 8,
  2 4, 1 8, 2 4, 1 8, 1 4, 1 8, 1 4, 1 8, 2 4, 1 8, 1 4, 2 8, 1 4, 1 8, 2 4, 1 8, 3 4, 1 8, 1 4,
  1 8, 2 4, 2 6, 1 8, 1 4, 3 6, 4 8, 1 7, 1 4, 1 8, 1 7, 1 4, 1 8, 1 7, 1 4, 1 8, 1 4, 1 8, 1 4,
  1 8, 1 4, 1 8, 1 4, 1 8, 1 4, 1 8, 1 4, 1 8, 1 4, 1 8, 1 4, 2 8, 1 4, 1 8, 1 4, 1 8, 1 4, 1 8,
  1 4, 1 8, 1 4, 1 8, 1 4, 1 8, 1 4, 1 8, 1 4, 1 8, 1 4, 2 8, 1 7, 1 4, 1 8, 1 4, 1 8, 3 4, 1 8,
  1 4, 1 8, 1 4, 1 8, 1 4, 1 8, 1 4, 1 8, 1 4, 1 8, 1 4, 1 8, 1 4, 1 8, 1 4, 1 8, 1 4, 1 8, 1 4,
  1 8, 1 4, 1 8, 1 4, 1 8, 1 4, 1 8, 1 4, 1 8, 1 4, 1 8, 1 4, 1 8, 1 4, 1 8, 1 4, 1 8, 1 4, 1 8,
  1 4, 1 8, 1 4, 1 8, 1 4, 1 8, 1 4, 1 8, 1 4, 1 8, 1 4, 1 8, 1 4, 1 8, 1 4, 1 8, 1 4, 1 8, 1 4,
  7 8, 2 4, 1 8, 2 4, 2 8, 1 4, 1 8, 4 4, 1 8, 1 4, 1 8, 1 4, 1 8, 1 4, 1 8, 1 4, 45 6, 1 4, 1B
  5, 12 17, 4 5, C 17, E 5, 5 17, 7 5, 1 17, 1 5, 1 17, 11 B, 70 8, 1 4, 1 8, 1 4, 1 5, 1 17, 1
  8, 1 4, 1 2, 2 5, 1 4, 3 14, 1 8, 1 2, 4 17, 2 8, 1 14, 1 8, 3 2, 1 8, 1 2, 1 8, 2 4, 1 8, 11
  2, 1 8, 9 4, 23 8, 1 4, 2 8, 3 4, 3 8, 1 4, 1 8, 1 4, 1 8, 1 4, 1 8, 1 4, 1 8, 1 4, 1 8, 1 4,
  1 8, 1 4, 1 8, 1 4, 1 8, 1 4, 1 8, 1 4, 1 8, 1 4, 1 8, 1 4, 5 8, 1 4, 1 18, 1 8, 1 4, 1 8, 2
  4, 2 8, 33 4, 30 8, 1 4, 1 8, 1 4, 1 8, 1 4, 1 8, 1 4, 1 8, 1 4, 1 8, 1 4, 1 8, 1 4, 1 8, 1 4,
  1 8, 1 4, 1 8, 1 4, 1 8, 1 4, 1 8, 1 4, 1 8, 1 4, 1 8, 1 4, 1 8, 1 4, 1 8, 1 4, 1 8, 1 4, 1
  19, 1 B, 5 A, 2 8, 1 4, 1 8, 1 4, 1 8, 1 4, 1 8, 1 4, 1 8, 1 4, 1 8, 1 4, 1 8, 1 4, 1 8, 1 4,
  1 8, 1 4, 1 8, 1 4, 1 8, 1 4, 1 8, 1 4, 1 8, 1 4, 1 8, 1 4, 1 8, 1 4, 1 8, 1 4, 1 8, 1 4, 1 8,
  1 4, 1 8, 1 4, 1 8, 1 4, 1 8, 1 4, 1 8, 1 4, 1 8, 1 4, 1 8, 1 4, 1 8, 1 4, 1 8, 1 4, 1 8, 1 4,
  1 8, 2 4, 1 8, 1 4, 1 8, 1 4, 1 8, 1 4, 1 8, 1 4, 1 8, 1 4, 1 8, 1 4, 2 8, 1 4, 1 8, 1 4, 1 8,
  1 4, 1 8, 1 4, 1 8, 1 4, 1 8, 1 4, 1 8, 1 4, 1 8, 1 4, 1 8, 1 4, 1 8, 1 4, 1 8, 1 4, 1 8, 1 4,
  1 8, 1 4, 1 8, 1 4, 1 8, 1 4, 1 8, 1 4, 1 8, 1 4, 1 8, 1 4, 1 8, 1 4, 1 8, 1 4, 1 8, 1 4, 1 8,
  1 4, 1 8, 1 4, 1 8, 1 4, 1 8, 1 4, 1 8, 1 4, 1 8, 1 4, 1 8, 1 4, 1 8, 1 4, 1 8, 1 4, 1 8, 1 4,
  1 8, 1 4, 1 8, 1 4, 1 8, 1 4, 1 8, 1 4, 1 8, 1 4, 1 8, 1 4, 1 8, 1 4, 1 8, 1 4, 1 8, 1 4, 1 8,
  1 4, 1 8, 1 4, 1 8, 1 4, 1 8, 1 4, 1 8, 1 4, 1 8, 1 4, 1 8, 1 4, 1 8, 1 4, 1 2, 1 8, 26 2, 2
  5, 1 14, 6 4, 29 14, 1 10, 1 2, 2 19, 2 16, 1 2, 1 B, 2D 10, 1 B, 1 14, 1 B, 2 14, 1 B, 2 14,
  1 B, 1 2, 8 6, 1B 2, 4 6, 4 14, 2 2, B 1, 6 18, 3 14, 2 16, 1 14, 2 19, 2 B, B 14, 1 1, 1 14,
  3 6, 20 5, 1 6, A B, 15 C, A 14, 4 6, 2 B, 1 6, 63 14, 1 6, 1 B, 7 1, 1 19, 1 B, 6 5, 2 B, 2
  19, 1 B, 4 6, 2 C, A 6, 3 19, 2 6, 1 14, E 2, 1 1, 1 6, 1 B, 1 6, 1E B, 1B 2, 2 6, 59 B, B 6,
  1 2, E C, A 6, 21 B, 9 5, 2 19, 1 14, 3 5, 1 2, 2 B, 1 16, 2 6, 16 B, 4 5, 1 B, 9 5, 1 B, 3 5,
  1 B, 5 2, 2 14, F 2, 1 6, 19 B, 3 2, 2 14, 1 2, 1 6, B 2, 5 6, 18 17, 1 6, 6 2, 1 1, 2 2, 5 B,
  9 6, 29 5, 1 B, 18 1, 1 B, 20 9, 1 6, 36 B, 1 9, 1 B, 1 6, 1 9, 3 B, 8 9, 4 B, 1 9, 2 6, 1 B,
  7 6, A B, 2 14, 2 C, A 14, 1 5, 1 6, F B, 1 9, 2 2, 1 6, 8 2, 2 6, 2 2, 2 6, 16 2, 1 6, 7 2, 1
  6, 1 2, 3 6, 4 2, 2 B, 1 6, 1 9, 3 B, 4 2, 2 9, 2 2, 2 9, 2 B, 1 6, 1 2, 8 9, 1 2, 4 6, 2 2, 1
  6, 3 B, 2 2, 2 C, A 6, 2 16, 2 E, 6 19, 1 16, 1 6, 1 14, 1 B, 1 2, 2 B, 2 9, 1 2, 1 6, 6 2, 4
  6, 2 2, 2 6, 16 2, 1 6, 7 2, 1 6, 2 2, 1 6, 2 2, 1 6, 2 2, 2 B, 1 2, 1 9, 3 B, 2 2, 4 B, 2 2,
  2 B, 3 2, 3 B, 1 2, 7 6, 4 2, 1 6, 1 2, 7 C, A B, 2 6, 3 B, 1 14, 1 2, A B, 2 9, 1 2, 1 6, 9
  2, 1 6, 3 2, 1 6, 16 2, 1 6, 7 2, 1 6, 2 2, 1 6, 5 2, 2 B, 1 6, 1 9, 3 B, 5 2, 1 B, 2 9, 1 2,
  1 9, 2 B, 1 2, 2 6, 1 2, F 6, 2 B, 2 2, 2 C, A 14, 1 16, 1 2, 7 6, 1 B, 6 2, 1 B, 1 9, 2 2, 1
  6, 8 2, 2 6, 2 2, 2 6, 16 2, 1 6, 7 2, 1 6, 2 2, 1 6, 5 2, 2 B, 1 6, 1 9, 1 B, 1 9, 1 B, 4 2,
  2 9, 2 2, 2 9, 2 B, 1 2, 7 B, 2 9, 1 2, 4 6, 2 2, 1 6, 3 B, 2 2, 2 C, A 19, 1 6, 1 E, 6 2, A
  B, 1 6, 1 2, 1 6, 6 2, 3 6, 3 2, 1 6, 4 2, 3 6, 2 2, 1 6, 1 2, 1 6, 2 2, 3 6, 2 2, 3 6, 3 2, 3
  6, C 2, 4 9, 2 B, 1 9, 2 2, 3 9, 3 2, 1 9, 3 B, 1 2, 2 6, 1 2, 6 9, 1 2, E C, A E, 3 19, 6 16,
  1 19, 1 2, 5 B, 1 9, 3 B, 1 6, 8 2, 1 6, 3 2, 1 6, 17 2, 1 6, 10 2, 2 B, 1 6, 1 B, 3 9, 4 2, 1
  B, 3 2, 1 B, 4 2, 7 B, 2 2, 1 6, 3 2, 2 6, 1 2, 2 6, 2 B, 2 2, 2 C, A 2, 7 14, 1 E, 7 19, 1 6,
  1 B, 1 9, 2 14, 1 6, 8 2, 1 6, 3 2, 1 6, 17 2, 1 6, A 2, 1 6, 5 2, 2 B, 1 6, 1 9, 1 B, 1 9, 5
  2, 1 B, 1 9, 2 2, 1 9, 2 B, 2 2, 7 9, 2 2, 6 6, 2 2, 1 6, 2 B, 2 2, 2 C, A 2, 1 6, 2 9, 1 2, C
  B, 2 9, 2 6, 9 2, 1 6, 3 2, 1 6, 29 B, 2 6, 1 9, 3 B, 4 2, 1 9, 3 2, 1 9, 3 B, 1 6, 1 19, 1 2,
  4 6, 3 9, 1 E, 7 6, 3 B, 2 2, 2 C, A E, 9 19, 1 6, 6 2, 1 B, 1 9, 2 2, 1 6, 12 2, 3 6, 18 2, 1
  6, 9 2, 1 6, 1 2, 2 6, 7 2, 3 B, 1 2, 4 9, 3 B, 3 2, 1 B, 1 2, 1 9, 8 2, 6 C, A 2, 2 9, 2 14,
  1 2, C 6, 30 B, 1 6, 2 B, 7 2, 4 16, 1 6, 6 5, 1 B, 8 14, 1 C, A 14, 2 2, 25 6, 2 2, 1 6, 1 2,
  1 6, 5 2, 1 6, 18 2, 1 6, 1 2, 1 6, A B, 1 6, 2 B, 9 6, 1 2, 2 6, 5 2, 1 5, 1 2, 1 B, 7 2, 1
  C, A 2, 2 6, 4 2, 20 6, 1 19, 3 14, F 19, 1 14, 1 19, 3 B, 2 19, 6 C, A E, A 19, 1 B, 1 19, 1
  B, 1 19, 1 B, 1 15, 1 11, 1 15, 1 11, 1 9, 2 6, 8 2, 1 6, 24 2, 4 B, E 9, 1 B, 5 14, 1 B, 2 6,
  5 B, B 2, 1 B, 24 2, 1 19, 8 B, 1 19, 6 2, 1 19, 2 14, 5 19, 4 14, 2 2, 25 6, 2B 9, 2 B, 4 9,
  1 B, 6 9, 1 B, 2 9, 2 B, 2 6, 1 C, A 14, 6 6, 6 9, 2 B, 2 6, 4 B, 3 6, 1 9, 3 6, 2 9, 7 6, 3
  B, 4 6, D B, 1 9, 2 B, 2 9, 6 B, 1 6, 1 9, 1 C, A 9, 3 B, 1 19, 2 8, 26 2, 1 8, 1 2, 5 8, 1 2,
  2 4, 2B 14, 1 5, 1 4, 3 6, 149 2, 1 6, 4 2, 2 6, 7 2, 1 6, 1 2, 1 6, 4 2, 2 6, 29 2, 1 6, 4 2,
  2 6, 21 2, 1 6, 4 2, 2 6, 7 2, 1 6, 1 2, 1 6, 4 2, 2 6, F 2, 1 6, 39 2, 1 6, 4 2, 2 6, 43 2, 2
  B, 3 14, 9 E, 14 2, 3 6, 10 19, A 2, 6 8, 56 2, 2 4, 6 2, 2 10, 1 6, 26C 19, 1 14, 1 6, 11 1C,
  1 6, 1A 15, 1 11, 1 2, 3 6, 4B 14, 3 D, 3 6, 8 2, 7 6, 12 B, 3 9, 1 2, 9 6, 13 B, 2 9, 1 14, 2
  2, 9 6, 12 B, 2 2, C 6, D 2, 1 6, 3 2, 1 B, 2 2, C 6, 34 B, 2 9, 1 B, 7 9, 8 B, 1 9, 2 B, B
  14, 3 5, 1 14, 3 16, 1 6, 1 B, 1 2, 2 C, A 2, 6 E, A 2, 6 14, 6 10, 1 14, 4 B, 3 1, 1 B, 1 C,
  A 2, 6 6, 23 5, 1 6, 35 2, 7 6, 5 B, 2 6, 22 B, 1 6, 1 2, 5 6, 46 2, A 6, 1F 2, 1 B, 3 9, 4 B,
  2 9, 3 2, 4 9, 2 B, 1 9, 6 B, 3 2, 4 19, 1 2, 3 14, 2 C, A 6, 1E 2, 2 6, 5 2, B 6, 2C 2, 4 6,
  1A 2, 6 C, A E, 1 2, 3 19, 22 6, 17 B, 2 9, 2 B, 1 2, 2 14, 2 6, 35 9, 1 B, 1 9, 1 B, 7 2, 1
  B, 1 9, 1 B, 1 9, 2 B, 8 9, 6 B, A 2, 2 B, 1 C, A 2, 6 C, A 2, 6 14, 7 5, 1 14, 6 2, 2 B, E A,
  1 B, 10 2, 31 B, 4 9, 1 6, 2F B, 1 9, 1 B, 5 9, 1 B, 1 9, 5 B, 1 9, 2 6, 8 2, 1 14, 2 C, A 14,
  7 19, A B, 9 19, 9 14, 3 B, 2 9, 1 6, 1E 9, 1 B, 4 9, 2 B, 2 9, 1 B, 3 6, 2 C, A 6, 2C B, 1 9,
  1 B, 2 9, 3 B, 1 9, 1 B, 3 9, 2 2, 8 14, 4 6, 24 9, 8 B, 8 9, 2 B, 2 2, 3 14, 5 C, A 2, 3 6, 3
  C, A 6, 1E 5, 6 14, 2 4, 9 8, 1 4, 1 2, 5 8, 2B 2, 2 8, 3 14, 8 2, 8 B, 3 14, 1 B, D 9, 1 B, 7
  6, 4 B, 1 6, 6 B, 1 6, 2 9, 1 B, 2 6, 1 2, 5 4, 2C 5, 3F 4, D 5, 1 4, 22 5, 25 B, 40 8, 1 4, 1
  8, 1 4, 1 8, 1 4, 1 8, 1 4, 1 8, 1 4, 1 8, 1 4, 1 8, 1 4, 1 8, 1 4, 1 8, 1 4, 1 8, 1 4, 1 8, 1
  4, 1 8, 1 4, 1 8, 1 4, 1 8, 1 4, 1 8, 1 4, 1 8, 1 4, 1 8, 1 4, 1 8, 1 4, 1 8, 1 4, 1 8, 1 4, 1
  8, 1 4, 1 8, 1 4, 1 8, 1 4, 1 8, 1 4, 1 8, 1 4, 1 8, 1 4, 1 8, 1 4, 1 8, 1 4, 1 8, 1 4, 1 8, 1
  4, 1 8, 1 4, 1 8, 1 4, 1 8, 1 4, 1 8, 1 4, 1 8, 1 4, 1 8, 1 4, 1 8, 1 4, 1 8, 1 4, 1 8, 1 4, 1
  8, 1 4, 1 8, 1 4, 1 8, 1 4, 1 8, 1 4, 1 8, 1 4, 1 8, 1 4, 1 8, 1 4, 1 8, 1 4, 1 8, 1 4, 1 8, 1
  4, 1 8, 1 4, 1 8, 1 4, 1 8, 1 4, 1 8, 1 4, 1 8, 1 4, 1 8, 1 4, 1 8, 1 4, 1 8, 1 4, 1 8, 1 4, 1
  8, 1 4, 1 8, 1 4, 1 8, 1 4, 1 8, 1 4, 1 8, 1 4, 1 8, 1 4, 1 8, 1 4, 1 8, 1 4, 1 8, 1 4, 1 8, 1
  4, 1 8, 1 4, 1 8, 1 4, 1 8, 1 4, 1 8, 1 4, 1 8, 1 4, 1 8, 1 4, 1 8, 1 4, 9 8, 1 4, 1 8, 1 4, 1
  8, 1 4, 1 8, 1 4, 1 8, 1 4, 1 8, 1 4, 1 8, 1 4, 1 8, 1 4, 1 8, 1 4, 1 8, 1 4, 1 8, 1 4, 1 8, 1
  4, 1 8, 1 4, 1 8, 1 4, 1 8, 1 4, 1 8, 1 4, 1 8, 1 4, 1 8, 1 4, 1 8, 1 4, 1 8, 1 4, 1 8, 1 4, 1
  8, 1 4, 1 8, 1 4, 1 8, 1 4, 1 8, 1 4, 1 8, 1 4, 1 8, 1 4, 1 8, 1 4, 1 8, 1 4, 1 8, 1 4, 1 8, 1
  4, 1 8, 1 4, 1 8, 1 4, 1 8, 1 4, 1 8, 1 4, 1 8, 1 4, 1 8, 1 4, 1 8, 1 4, 1 8, 1 4, 1 8, 1 4, 1
  8, 1 4, 1 8, 1 4, 1 8, 1 4, 1 8, 1 4, 1 8, 1 4, 1 8, 1 4, 1 8, 1 4, 1 8, 1 4, 1 8, 1 4, 9 8, 8
  4, 6 2, 2 8, 6 2, 2 4, 8 8, 8 4, 8 8, 8 4, 6 2, 2 8, 6 2, 2 4, 8 2, 1 8, 1 2, 1 8, 1 2, 1 8, 1
  2, 1 8, 1 4, 8 8, 8 4, E 2, 2 4, 8 7, 8 4, 8 7, 8 4, 8 7, 8 4, 5 2, 1 4, 2 8, 4 7, 1 17, 1 4,
  1 17, 3 4, 3 2, 1 4, 2 8, 4 7, 1 17, 3 4, 4 2, 2 4, 2 8, 4 2, 1 17, 3 4, 8 8, 5 17, 3 2, 2 4,
  3 2, 1 4, 2 8, 4 7, 1 17, 2 2, 1 1C, B 1, 5 10, 6 14, 2 13, 1 12, 1 15, 1 13, 2 12, 1 15, 1
  13, 1 14, 8 1A, 1 1B, 1 1, 5 1C, 1 14, 9 13, 1 12, 1 14, 4 F, 2 14, 3 18, 1 15, 1 11, 1 14, B
  18, 1 14, 1 F, 1 14, A 1C, 1 1, 5 2, 1 1, A E, 1 5, 1 2, 2 E, 6 18, 3 15, 1 11, 1 5, 1 E, A
  18, 3 15, 1 11, 1 2, 1 5, D 2, 3 16, 21 2, F B, D A, 4 B, 1 A, 3 B, C 2, F 19, 2 8, 1 19, 4 8,
  1 19, 2 4, 1 8, 3 4, 2 8, 3 4, 1 19, 1 8, 1 19, 2 18, 1 8, 5 19, 6 8, 1 19, 1 8, 1 19, 1 8, 1
  19, 1 8, 4 19, 1 4, 1 8, 4 4, 1 6, 4 4, 1 19, 2 4, 2 8, 2 18, 5 8, 1 4, 4 19, 1 18, 1 19, 2 4,
  1 19, 1 E, 10 D, 23 8, 1 4, 1 D, 4 E, 1 19, 2 2, 4 18, 5 19, 5 18, 2 19, 4 18, 1 19, 2 18, 1
  19, 2 18, 1 19, 7 18, 1 19, 1F 18, 2 19, 2 18, 1 19, 1 18, 1 19, 1F 18, 10C 19, 8 15, 1 11, 1
  15, 1 11, 1 19, 14 18, 2 19, 7 15, 1 11, 1 19, 51 18, 1 19, 1E 18, 19 19, 28 18, 6 19, 48 2,
  16 19, B 2, 15 E, 3C 19, 4E E, 16 19, B7 18, 1 19, 9 18, 1 19, 36 18, 8 19, 6F 18, 1 19, F8
  15, 1 11, 1 15, 1 11, 1 15, 1 11, 1 15, 1 11, 1 15, 1 11, 1 15, 1 11, 1 15, 1 11, 1 E, 1E 19,
  2C 18, 5 15, 1 11, 1 18, 1F 15, 1 11, 1 15, 1 11, 1 15, 1 11, 1 15, 1 11, 1 15, 1 11, 1 18, 10
  19, 100 18, 83 15, 1 11, 1 15, 1 11, 1 15, 1 11, 1 15, 1 11, 1 15, 1 11, 1 15, 1 11, 1 15, 1
  11, 1 15, 1 11, 1 15, 1 11, 1 15, 1 11, 1 15, 1 11, 1 18, 3F 15, 1 11, 1 15, 1 11, 1 18, 20
  15, 1 11, 1 18, 102 19, 30 18, 15 19, 2 18, 6 19, 27 2, 2 19, 20 2, 1 19, 69 8, 30 4, 30 8, 1
  4, 1 8, 3 4, 2 8, 1 4, 1 8, 1 4, 1 8, 1 4, 1 8, 4 4, 1 8, 1 4, 2 8, 1 4, 6 5, 2 8, 3 4, 1 8, 1
  4, 1 8, 1 4, 1 8, 1 4, 1 8, 1 4, 1 8, 1 4, 1 8, 1 4, 1 8, 1 4, 1 8, 1 4, 1 8, 1 4, 1 8, 1 4, 1
  8, 1 4, 1 8, 1 4, 1 8, 1 4, 1 8, 1 4, 1 8, 1 4, 1 8, 1 4, 1 8, 1 4, 1 8, 1 4, 1 8, 1 4, 1 8, 1
  4, 1 8, 1 4, 1 8, 1 4, 1 8, 1 4, 1 8, 1 4, 1 8, 1 4, 1 8, 1 4, 1 8, 1 4, 1 8, 1 4, 1 8, 1 4, 1
  8, 1 4, 1 8, 1 4, 1 8, 1 4, 1 8, 1 4, 1 8, 1 4, 1 8, 1 4, 1 8, 1 4, 1 8, 1 4, 1 8, 1 4, 1 8, 1
  4, 1 8, 1 4, 1 8, 1 4, 1 8, 1 4, 1 8, 1 4, 1 8, 1 4, 1 8, 1 4, 1 8, 1 4, 1 8, 1 4, 1 8, 1 4, 1
  8, 1 4, 2 19, 6 8, 1 4, 1 8, 1 4, 1 B, 3 8, 1 4, 1 2, 5 14, 4 E, 1 14, 2 4, 26 2, 1 4, 1 2, 5
  4, 1 2, 2 6, 38 2, 7 5, 1 14, 1 2, E B, 1 6, 17 2, 9 6, 7 2, 1 6, 7 2, 1 6, 7 2, 1 6, 7 2, 1
  6, 7 2, 1 6, 7 2, 1 6, 7 2, 1 6, 7 2, 1 B, 20 14, 2 13, 1 12, 1 13, 1 12, 1 14, 3 13, 1 12, 1
  14, 1 13, 1 12, 1 14, 9 10, 1 14, 2 10, 1 14, 1 13, 1 12, 1 14, 2 13, 1 12, 1 15, 1 11, 1 15,
  1 11, 1 15, 1 11, 1 15, 1 11, 1 14, 5 5, 1 14, A 10, 2 14, 4 10, 1 14, 1 15, 1 14, D 19, 2 14,
  3 15, 1 11, 1 15, 1 11, 1 15, 1 11, 1 15, 1 11, 1 10, 1 2, 22 19, 1A 2, 1 19, 59 2, C 19, D6
  2, 1A 19, 10 1C, 1 14, 3 19, 1 5, 1 6, 1 D, 1 15, 1 11, 1 15, 1 11, 1 15, 1 11, 1 15, 1 11, 1
  15, 1 11, 1 19, 2 15, 1 11, 1 15, 1 11, 1 15, 1 11, 1 15, 1 11, 1 10, 1 15, 1 11, 2 19, 1 D, 9
  B, 4 9, 2 10, 1 5, 5 19, 2 D, 3 5, 1 6, 1 14, 1 19, 2 2, 1 6, 56 2, 2 B, 2 17, 2 5, 2 6, 1 10,
  1 6, 5A 14, 1 5, 3 6, 1 2, 5 6, 2B 2, 1 6, 5E 2, 1 19, 2 E, 4 19, A 6, 20 19, 26 2, 9 19, 1 6,
  10 19, 1F 2, 1 E, A 19, 1E E, 8 19, 1 E, F 19, 20 E, A 19, 27 E, F 19, 140 6, 19C0 19, 40 6,
  5215 5, 1 6, 477 2, 3 19, 37 2, 9 6, 28 5, 6 14, 2 6, 10C 5, 1 14, 3 6, 10 C, A 6, 2 2, 14 8,
  1 4, 1 8, 1 4, 1 8, 1 4, 1 8, 1 4, 1 8, 1 4, 1 8, 1 4, 1 8, 1 4, 1 8, 1 4, 1 8, 1 4, 1 8, 1 4,
  1 8, 1 4, 1 8, 1 4, 1 8, 1 4, 1 8, 1 4, 1 8, 1 4, 1 8, 1 4, 1 8, 1 4, 1 8, 1 4, 1 8, 1 4, 1 8,
  1 4, 1 8, 1 4, 1 8, 1 4, 1 8, 1 4, 1 6, 1 B, 1 A, 3 14, 1 B, A 14, 1 5, 1 8, 1 4, 1 8, 1 4, 1
  8, 1 4, 1 8, 1 4, 1 8, 1 4, 1 8, 1 4, 1 8, 1 4, 1 8, 1 4, 1 8, 1 4, 1 8, 1 4, 1 8, 1 4, 1 8, 1
  4, 1 8, 1 4, 1 8, 1 4, 1 5, 2 B, 2 6, 46 D, A B, 2 14, 6 2, 8 17, 17 5, 9 17, 2 8, 1 4, 1 8, 1
  4, 1 8, 1 4, 1 8, 1 4, 1 8, 1 4, 1 8, 1 4, 1 8, 1 4, 3 8, 1 4, 1 8, 1 4, 1 8, 1 4, 1 8, 1 4, 1
  8, 1 4, 1 8, 1 4, 1 8, 1 4, 1 8, 1 4, 1 8, 1 4, 1 8, 1 4, 1 8, 1 4, 1 8, 1 4, 1 8, 1 4, 1 8, 1
  4, 1 8, 1 4, 1 8, 1 4, 1 8, 1 4, 1 8, 1 4, 1 8, 1 4, 1 8, 1 4, 1 8, 1 4, 1 8, 1 4, 1 8, 1 4, 1
  8, 1 4, 1 8, 1 4, 1 8, 1 4, 1 8, 1 4, 1 8, 1 4, 1 8, 1 4, 1 8, 1 4, 1 8, 1 4, 1 5, 1 4, 8 8, 1
  4, 1 8, 1 4, 1 8, 2 4, 1 8, 1 4, 1 8, 1 4, 1 8, 1 4, 1 8, 1 4, 1 5, 1 17, 2 8, 1 4, 1 8, 1 4,
  1 6, 1 8, 1 4, 1 8, 1 4, 3 8, 1 4, 1 8, 1 4, 1 8, 1 4, 1 8, 1 4, 1 8, 1 4, 1 8, 1 4, 1 8, 1 4,
  1 8, 1 4, 1 8, 1 4, 1 8, 1 4, 1 8, 5 4, 1 8, 5 4, 1 8, 1 4, 1 8, 1 4, 1 8, 1 4, 1 8, 1 4, 1 8,
  1 4, 1 8, 1 4, 1 8, 1 4, 1 8, 4 4, 1 8, 1 4, 1 8, 2 4, 1 2, 2 8, 1 4, 1 2, 1 4, 1 2, 1 4, 1 8,
  1 4, 1 8, 1 4, 1 8, 1 4, 1 8, 1 2, 15 5, 3 8, 1 4, 1 6, 1 5, 2 4, 1 6, 7 B, 1 6, 3 B, 1 6, 4
  B, 1 6, 17 9, 2 B, 2 9, 1 19, 4 B, 1 2, 3 E, 6 19, 2 16, 1 19, 1 2, 6 6, 34 14, 4 2, 8 9, 2 6,
  32 9, 10 B, 2 2, 8 14, 2 C, A 2, 6 B, 12 6, 6 14, 3 6, 1 14, 1 6, 2 B, 1 C, A 6, 1C B, 8 14, 2
  6, 17 B, B 9, 2 2, B 14, 1 6, 1D 2, 3 B, 3 9, 1 6, 2F B, 1 9, 2 B, 4 9, 2 B, 2 9, 3 14, D 2, 1
  5, 1 C, A 2, 4 14, 2 6, 5 B, 1 5, 1 6, 9 C, A 6, 5 2, 1 6, 29 B, 6 9, 2 B, 2 9, 2 B, 2 2, 9 6,
  3 B, 1 6, 8 B, 1 9, 1 2, 2 C, A 2, 2 14, 4 6, 10 5, 1 6, 6 19, 3 6, 1 9, 1 B, 1 9, 1 6, 32 B,
  1 6, 1 B, 3 6, 2 B, 2 6, 5 B, 2 6, 1 B, 1 6, 1 2, 18 6, 2 5, 1 14, 2 6, B 9, 1 B, 2 9, 2 14, 2
  6, 1 5, 2 9, 1 B, 1 2, A 6, 6 2, 2 6, 6 2, 2 6, 6 2, 9 6, 7 2, 1 6, 7 2, 1 4, 2B 17, 1 5, 4 4,
  9 5, 1 17, 2 2, 4 4, 50 6, 23 9, 2 B, 1 9, 2 B, 1 9, 2 14, 1 9, 1 B, 1 2, 2 C, A 2, 6 6, 2BA4
  2, C 6, 17 2, 4 6, 31 2, 804 3, 1900 6, 16E 2, 2 6, 6A 2, 26 4, 7 2, C 4, 5 2, 5 6, 1 B, 1 6,
  A 18, 1 6, D 2, 1 6, 5 2, 1 6, 1 2, 1 6, 2 2, 1 6, 2 2, 1 6, 6C 17, 11 2, 10 6, 16B 11, 1 15,
  1 19, 10 6, 40 2, 2 6, 36 2, 7 19, 1 2, 20 6, C 16, 1 19, 3 B, 10 14, 7 15, 1 11, 1 14, 1 2, 6
  B, 10 14, 1 10, 2 F, 2 15, 1 11, 1 15, 1 11, 1 15, 1 11, 1 15, 1 11, 1 15, 1 11, 1 15, 1 11, 1
  15, 1 11, 1 15, 1 11, 1 14, 2 15, 1 11, 1 14, 4 F, 3 14, 3 2, 1 14, 4 10, 1 15, 1 11, 1 15, 1
  11, 1 15, 1 11, 1 14, 3 18, 1 10, 1 18, 3 2, 1 14, 1 16, 1 14, 2 2, 4 6, 5 2, 1 6, 87 2, 2 1,
  1 2, 1 14, 3 16, 1 14, 3 15, 1 11, 1 14, 1 18, 1 14, 1 10, 1 14, 2 C, A 14, 2 18, 3 14, 2 8,
  1A 15, 1 14, 1 11, 1 17, 1 F, 1 17, 1 4, 1A 15, 1 18, 1 11, 1 18, 1 15, 1 11, 1 14, 1 15, 1
  11, 1 14, 2 6, A 5, 1 6, 2D 5, 2 6, 1F 2, 3 6, 6 2, 2 6, 6 2, 2 6, 6 2, 2 6, 3 2, 3 16, 2 18,
  1 17, 1 19, 1 16, 2 2, 1 19, 1 18, 4 19, 2 2, A 1, 3 19, 2 2, 2 6, C 2, 1 6, 1A 2, 1 6, 13 2,
  1 6, 2 2, 1 6, F 2, 2 6, E 2, 22 6, 7B 2, 5 14, 3 2, 4 E, 2D 2, 3 19, 9 D, 35 E, 4 19, 11 E, 2
  19, 3 2, 1 19, D 2, 3 19, 1 2, 2F 19, 2D B, 1 2, 82 6, 1D 2, 3 6, 31 2, F B, 1 E, 1B 2, 4 6,
  20 E, 4 2, 9 6, 14 D, 1 6, 8 D, 1 2, 5 6, 26 B, 5 2, 5 6, 1E 2, 1 14, 1 6, 24 2, 4 6, 8 14, 1
  D, 5 2, 2A 8, 28 4, 28 6, 4E 2, 2 C, A 2, 6 8, 24 2, 4 4, 24 2, 4 6, 28 2, 8 6, 34 2, B 14, 1
  8, B 2, 1 8, F 2, 1 8, 7 2, 1 8, 2 2, 1 4, B 2, 1 4, F 2, 1 4, 7 2, 1 4, 2 2, 3 6, 34 2, C 6,
  137 2, 9 6, 16 2, A 6, 8 2, 18 5, 6 2, 1 5, 2A 2, 1 5, 9 2, 45 6, 6 2, 2 6, 1 2, 1 6, 2C 2, 1
  6, 2 2, 3 6, 1 2, 2 6, 17 2, 1 14, 1 E, 8 6, 17 19, 2 E, 7 6, 1F 2, 8 E, 9 2, 30 6, 13 2, 1 6,
  2 2, 5 E, 5 6, 16 E, 6 2, 3 14, 1 6, 1A 2, 5 14, 1 2, 40 6, 38 2, 4 E, 2 6, 2 E, 10 2, 2 E, 2E
  6, 1 B, 3 2, 1 B, 2 2, 5 B, 4 6, 4 2, 1 6, 3 2, 1 6, 1D 2, 2 B, 3 2, 4 B, 1 E, 9 2, 7 14, 9 2,
  7 6, 1D E, 2 14, 1 6, 1D E, 3 2, 20 6, 8 19, 1 6, 1C B, 2 2, 4 E, 5 14, 7 2, 9 6, 36 2, 3 14,
  7 6, 16 2, 2 E, 8 6, 13 2, 5 E, 8 6, 12 2, 7 14, 4 2, C E, 7 2, 50 6, 49 2, 37 8, 33 2, D 4,
  33 2, 7 E, 6 6, 24 B, 4 2, 8 C, A 2, 6 C, A 6, 4 5, 1 6, 1 8, 16 2, 3 B, 5 10, 1 5, 1 4, 16 2,
  8 18, 2 2, D0 E, 1F 2, 1 6, 2A 2, 1 B, 2 10, 1 2, 2 6, 2 2, 10 6, 3 2, 37 B, 4 6, 1D E, A 6, 1
  2, 8 6, 16 B, B E, 4 14, 5 2, 16 6, 12 B, 4 14, 4 2, 26 6, 15 E, 7 2, 14 6, 17 2, 9 9, 1 B, 1
  9, 1 6, 35 B, F 14, 7 2, 4 E, 14 C, A B, 1 6, 2 B, 2 6, 1 2, 9 B, 3 9, 1 6, 2D 9, 3 B, 4 9, 2
  B, 2 14, 2 1, 1 14, 4 B, 1 2, A 1, 1 2, 2 6, 19 2, 7 C, A 2, 6 B, 3 6, 24 B, 5 9, 1 B, 8 2, 1
  C, A 14, 4 6, 1 9, 2 6, 1 2, 8 6, 23 B, 1 14, 2 6, 1 2, 9 B, 2 9, 1 6, 30 9, 3 B, 9 9, 2 6, 4
  14, 4 B, 4 14, 1 9, 1 B, 1 C, A 6, 1 14, 1 6, 1 14, 3 2, 1 E, 14 2, B 6, 12 2, 1 6, 19 9, 3 B,
  3 9, 2 B, 1 9, 1 B, 2 14, 6 B, 1 6, 2 B, 1 2, 3E 6, 7 2, 1 6, 1 2, 1 6, 4 2, 1 6, F 2, 1 6, A
  14, 1 2, 6 6, 2F B, 1 9, 3 B, 8 2, 5 C, A 2, 6 B, 2 9, 2 2, 1 6, 8 2, 2 6, 2 2, 2 6, 16 2, 1
  6, 7 2, 1 6, 2 2, 1 6, 5 2, 1 B, 2 6, 1 9, 2 B, 1 9, 4 2, 2 9, 2 2, 2 9, 3 2, 2 6, 1 2, 6 9, 1
  2, 5 6, 5 9, 2 2, 2 B, 7 2, 3 B, 5 2, B 6, A 2, 1 6, 1 2, 2 6, 1 2, 1 6, 26 2, 1 6, 1 9, 3 B,
  6 2, 1 9, 1 2, 2 9, 1 2, 1 9, 4 2, 1 9, 2 B, 1 9, 1 B, 1 6, 1 B, 1 6, 1 14, 2 2, 1 14, 2 2, 8
  B, 2 2, 1D 6, 35 9, 3 B, 8 9, 2 B, 3 9, 1 B, 1 6, 4 14, 5 C, A 14, 2 2, 1 14, 1 B, 1 6, 3 2,
  1E 6, 30 9, 3 B, 6 9, 1 B, 1 9, 4 B, 2 9, 1 B, 2 6, 2 14, 1 6, 1 2, 8 C, A 2, A6 6, 2F 9, 3 B,
  4 2, 2 9, 4 B, 2 9, 1 B, 2 14, 17 6, 4 B, 2 2, 22 6, 30 9, 3 B, 8 9, 2 B, 1 9, 1 B, 2 14, 3 6,
  1 2, B C, A 2, 6 14, D 2, 13 6, 2B B, 1 9, 1 B, 1 9, 2 B, 6 9, 1 B, 1 6, 1 14, 1 2, 6 C, A 2,
  6 C, 14 2, 1C 6, 1B 2, 2 B, 1 9, 1 B, 1 9, 2 B, 4 9, 1 B, 5 2, 4 C, A E, 2 14, 3 19, 1 6, 7 2,
  B9 6, 2C 9, 3 B, 9 9, 1 B, 2 14, 1 2, 64 8, 20 4, 20 C, A E, 9 2, C 6, 8 2, 2 6, 1 2, 2 6, 8
  2, 1 6, 2 2, 1 6, 18 9, 6 2, 1 9, 2 2, 2 B, 2 9, 1 B, 1 6, 1 9, 1 6, 1 9, 1 B, 1 14, 3 2, 9 C,
  A 2, 46 6, 8 2, 2 6, 27 9, 3 B, 4 2, 2 B, 2 9, 4 B, 1 6, 1 14, 1 6, 1 9, 1 2, 1B 6, 1 B, A 6,
  28 B, 6 9, 1 6, 1 B, 4 14, 8 B, 1 2, 8 6, 1 B, 6 9, 2 B, 3 6, 2E B, D 9, 1 B, 2 14, 3 6, 1 14,
  5 2, D 6, 49 2, 7 14, A 2, B6 6, 21 14, 1 2, E C, A 2, 6 6, 9 2, 1 6, 25 9, 1 B, 7 2, 1 B, 6
  9, 1 B, 1 6, 1 14, 5 2, A C, A E, 13 2, 3 14, 2 6, 1E 2, 2 B, 16 2, 1 9, 1 B, 7 9, 1 B, 2 9, 1
  B, 2 2, 49 6, 7 2, 1 6, 2 2, 1 6, 26 B, 6 2, 3 B, 1 2, 1 B, 2 2, 1 B, 7 6, 1 B, 1 2, 8 C, A 2,
  6 6, 6 2, 1 6, 2 2, 1 6, 20 9, 5 2, 1 B, 2 2, 1 9, 2 B, 1 9, 1 B, 1 6, 1 2, 7 C, A 2, 136 6,
  13 B, 2 9, 2 14, 2 2, 7 B, 2 6, 1 9, 1 6, D 2, 1 6, 22 9, 2 B, 5 2, 3 9, 2 B, 1 9, 1 B, 1 14,
  D C, A B, 1 2, 55 6, 1 2, F E, 15 19, 8 16, 4 19, 11 2, D 14, 1 6, 39A 2, 66 D, 6F 2, 1 14, 5
  2, B 6, C4 2, A4C 6, 61 14, 2 2, D 6, 430 1, 10 B, 1 6, 6 B, F 2, A 6, F9B 2, 5 6, 247 2, 1AB9
  6, 1E B, C 9, 3 B, 3 C, A 2, 6C6 6, 239 2, 7 6, 1F 2, 1 C, A 2, 4 14, 2 6, 4F 2, 1 C, A 2, 6
  6, 1E 2, 2 B, 5 14, 1 2, A 6, 30 B, 7 14, 5 19, 4 5, 4 14, 1 19, 1 2, A C, A 2, 1 E, 7 2, 1 6,
  15 2, 5 6, 13 2, 1B0 5, 3 6, 28 5, 2 14, 3 C, A 2, C6 8, 20 4, 20 E, 17 14, 4 2, 65 6, 4B 2, 4
  B, 1 6, 1 9, 37 2, 7 B, 4 5, D 2, 40 5, 2 14, 1 5, 1 B, 1 2, B 9, 2 2, E 6, 17F8 2, 8 6, 4D6
  2, 29 6, A 2, 22E7 5, 4 2, 1 5, 7 2, 1 5, 2 2, 1 6, 123 2, F 6, 1 2, 1D 6, 3 2, 2 6, 1 2, E 6,
  4 2, 8 6, 18C 2, 904 6, 6B 2, 5 6, D 2, 3 6, 9 2, 7 6, A 2, 2 19, 1 B, 2 14, 1 1, 4 2, F5C 19,
  F0 C, A 2, 6 19, 1B4 2, 4C B, 2E 2, 2 B, 17 2, 9 19, 74 2, 3C 19, F6 2, A 19, 27 2, 2 19, 3C
  9, 2 B, 3 19, 3 9, 6 1, 8 B, 8 19, 2 B, 7 19, 1E B, 4 19, 3D 2, 15 19, 42 B, 3 19, 1 2, 7A E,
  14 2, C E, 14 2, C 19, 57 2, 9 E, 19 2, 87 8, 1A 4, 1A 8, 1A 4, 7 2, 1 4, 12 8, 1A 4, 1A 8, 1
  2, 1 8, 2 2, 2 8, 1 2, 2 8, 2 2, 2 8, 4 2, 1 8, 8 4, 4 2, 1 4, 1 2, 1 4, 7 2, 1 4, B 8, 1A 4,
  1A 8, 2 2, 1 8, 4 2, 2 8, 8 2, 1 8, 7 2, 1 4, 1A 8, 2 2, 1 8, 4 2, 1 8, 5 2, 1 8, 1 2, 3 8, 7
  2, 1 4, 1A 8, 1A 4, 1A 8, 1A 4, 1A 8, 1A 4, 1A 8, 1A 4, 1A 8, 1A 4, 1A 8, 1A 4, 1C 2, 2 8, 19
  18, 1 4, 19 18, 1 4, 6 8, 19 18, 1 4, 19 18, 1 4, 6 8, 19 18, 1 4, 19 18, 1 4, 6 8, 19 18, 1
  4, 19 18, 1 4, 6 8, 19 18, 1 4, 19 18, 1 4, 6 8, 1 4, 1 2, 2 C, 32 19, 200 B, 37 19, 4 B, 32
  19, 8 B, 1 19, E B, 1 19, 2 14, 5 2, F B, 5 2, 1 B, F 2, 450 4, A 6, 1 4, 14 2, 6 4, 6 2, D5
  B, 7 2, 1 B, 11 2, 2 B, 7 2, 1 B, 2 2, 1 B, 5 2, 5 5, 3E 2, 21 B, 1 2, 70 6, 2D 2, 3 B, 7 5, 7
  2, 2 C, A 2, 4 6, 1 19, 1 2, 140 6, 1E B, 1 2, 11 6, 2C B, 4 C, A 2, 5 16, 1 2, 1D0 6, 1B 5, 1
  B, 4 C, A 2, D6 6, 1E B, 2 6, 1 C, A 2, 4 14, 1 2, 1E0 6, 7 2, 1 6, 4 2, 1 6, 2 2, 1 6, F 2, 1
  6, C5 2, 2 E, 9 B, 7 2, 29 8, 22 4, 22 B, 7 5, 1 2, 4 C, A 2, 4 14, 2 2, 311 E, 3B 19, 1 E, 3
  16, 1 E, 4 2, 4C E, 2D 19, 1 E, F 2, C2 6, 4 2, 1 6, 1B 2, 1 6, 2 2, 1 6, 1 2, 2 6, 1 2, 1 6,
  A 2, 1 6, 4 2, 1 6, 1 2, 1 6, 1 2, 6 6, 1 2, 4 6, 1 2, 1 6, 1 2, 1 6, 1 2, 1 6, 3 2, 1 6, 2 2,
  1 6, 1 2, 2 6, 1 2, 1 6, 1 2, 1 6, 1 2, 1 6, 1 2, 1 6, 1 2, 1 6, 2 2, 1 6, 1 2, 2 6, 4 2, 1 6,
  7 2, 1 6, 4 2, 1 6, 4 2, 1 6, 1 2, 1 6, A 2, 1 6, 11 2, 5 6, 3 2, 1 6, 5 2, 1 6, 11 2, 34 18,
  2 2, 10E 19, 2C 2, 4 19, 64 2, C 19, F 2, 2 19, F 2, 1 19, F 2, 1 19, 25 2, A E, D 19, A1 2,
  38 19, 1D 2, D 19, 2C 2, 4 19, 9 2, 7 19, 2 2, E 19, 6 2, 9A 19, FB 17, 5 19, 2D8 2, 4 19, 11
  2, 3 19, D 2, 3 19, 77 2, 4 19, 5F 2, 6 19, C 2, 4 19, 1 2, F 19, C 2, 4 19, 38 2, 8 19, A 2,
  6 19, 28 2, 8 19, 1E 2, 2 19, C 2, 4 19, 2 2, 3E 19, 154 2, C 19, E 2, 2 19, D 2, 3 19, A 2, 5
  19, 38 2, 7 19, F 2, 2 19, B 2, 6 19, 9 2, 7 19, 93 2, 1 19, 5C C, A 2, 406 6, A6E0 2, 20 6,
  103A 2, 6 6, DE 2, 2 6, 1682 2, E 6, 1D31 2, F 6, 26E 2, 9A2 6, 21E 2, 5E2 6, 134B 2, 5 6,
  1060 2, ADC51 1, 1 2, 1E 1, 60 2, 80 B, F0 2, FE10 3, FFFE 2, 2 3, FFFE 2"

def set (cs : List Category) : CharSet :=
  let places := cs.map (named.map (·.1)).idxOf
  .ofTurns (Table.turnsWhere places.contains false (Table.placedRows rows))

def ofName? (name : Text) : Option CharSet :=
  match named.find? fun (_, names) => Name.isAmong (Name.words names.toList) name with
  | some (c, _) => some (set [c])
  | none =>
    (groups.find? fun (_, names) => Name.isAmong (Name.words names.toList) name).map fun (cs, _) =>
      set cs

end Category
end Classwright
