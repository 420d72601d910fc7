import Classwright.Property.Category
import Classwright.Property.TraitTable
/-!
# Traits of characters

Properties that a character has or has not. Many follow from the general category and a list of
exceptions; the others are given by their tables.
-/
namespace Classwright.Trait
open TraitTable

/-- The set with turning points that are written as distances. -/
def tabled (table : String) : CharSet := .ofTurns (Table.turns table)

/-! ## Case -/

def lowercase : CharSet := (Category.set [.lowercase]).union (tabled otherLowercase)

def uppercase : CharSet := (Category.set [.uppercase]).union (tabled otherUppercase)

def cased : CharSet := (lowercase.union uppercase).union (Category.set [.titlecase])

/-- Characters that a search for cased neighbours skips. -/
def caseIgnorable : CharSet :=
  let marks := Category.set [.nonspacingMark, .enclosingMark, .format, .modifierLetter,
    .modifierSymbol]
  let others := [0x27, 0x2E, 0x3A, 0xB7, 0x387, 0x55F, 0x5F4, 0x2018, 0x2019, 0x2024, 0x2027,
    0xFE13, 0xFE52, 0xFE55, 0xFF07, 0xFF0E, 0xFF1A]
  marks.union (.ofChars (others.map Char.ofNat))

def casefolded : CharSet := (tabled lowercased).symmDiff (tabled lowercasedOrFolded)

/-- Characters that change when title-cased. -/
def titlecased : CharSet := (tabled uppercased).symmDiff (tabled uppercasedOrTitled)

/-- Characters that change when their case is changed. -/
def casemapped : CharSet := ((tabled lowercased).union (tabled uppercased)).union titlecased

/-! ## Words and names -/

def alphabetic : CharSet :=
  let letters := Category.set [.titlecase, .modifierLetter, .otherLetter, .letterNumber]
  ((lowercase.union uppercase).union letters).union (tabled otherAlphabetic)

/-- Characters without a part in identifiers. -/
def syntactic : CharSet := (tabled patternSyntax).union (tabled patternBlanks)

def identifierStart : CharSet :=
  ((Category.set (.letterNumber :: Category.letters)).union (tabled otherIdentifierStart)).diff
    syntactic

def identifierContinue : CharSet :=
  let parts := Category.set [.nonspacingMark, .spacingMark, .decimalNumber, .connector]
  (identifierStart.union parts).union ((tabled otherIdentifierContinue).diff syntactic)

/-! ## Clusters -/

/-- Characters that extend the one in front. -/
def graphemeExtend : CharSet :=
  (Category.set [.enclosingMark, .nonspacingMark]).union (tabled otherGraphemeExtend)

/-- Characters that others extend. -/
def graphemeBase : CharSet :=
  let others := Category.set [.control, .format, .unassigned, .privateUse, .lineSeparator,
    .paragraphSeparator]
  (others.union graphemeExtend).complement

/-- Characters that are not shown. -/
def defaultIgnorable : CharSet :=
  let ignored := ((Category.set [.format]).union (tabled otherDefaultIgnorable)).union
    (tabled variationSelectors)
  (ignored.diff (.ofTurns [0xFFF9, 0xFFFC, 0x13430, 0x13441])).diff (tabled prependedMarks)

/-- Characters of formulas. -/
def math : CharSet := (Category.set [.mathSymbol]).union (tabled otherMath)

/-! ## Names of traits -/

/-- The traits with their names; the first one is the one by which they are known here. -/
def names : String :=
  "ASCII_Hex_Digit AHex, Alphabetic Alpha, Bidi_Control Bidi_C, Bidi_Mirrored Bidi_M,
  Case_Ignorable CI, Cased, Changes_When_Casefolded CWCF, Changes_When_Casemapped CWCM,
  Changes_When_Lowercased CWL, Changes_When_Titlecased CWT, Changes_When_Uppercased CWU, Dash,
  Default_Ignorable_Code_Point DI, Deprecated Dep, Diacritic Dia, Emoji, Emoji_Component EComp,
  Emoji_Modifier EMod, Emoji_Modifier_Base EBase, Emoji_Presentation EPres, Extended_Pictographic
  ExtPict, Extender Ext, Grapheme_Base Gr_Base, Grapheme_Extend Gr_Ext, Grapheme_Link Gr_Link,
  Hex_Digit Hex, Hyphen, IDS_Binary_Operator IDSB, IDS_Trinary_Operator IDST, IDS_Unary_Operator
  IDSU, ID_Compat_Math_Continue, ID_Compat_Math_Start, ID_Continue IDC, ID_Start IDS, Ideographic
  Ideo, Join_Control Join_C, Logical_Order_Exception LOE, Lowercase Lower, Math,
  Modifier_Combining_Mark MCM, Noncharacter_Code_Point NChar, Other_Alphabetic OAlpha,
  Other_Default_Ignorable_Code_Point ODI, Other_Grapheme_Extend OGr_Ext, Other_ID_Continue OIDC,
  Other_ID_Start OIDS, Other_Lowercase OLower, Other_Math OMath, Other_Uppercase OUpper,
  Pattern_Syntax Pat_Syn, Pattern_White_Space Pat_WS, Prepended_Concatenation_Mark PCM,
  Quotation_Mark QMark, Radical, Regional_Indicator RI, Sentence_Terminal STerm, Soft_Dotted SD,
  Terminal_Punctuation Term, Unified_Ideograph UIdeo, Uppercase Upper, Variation_Selector VS,
  White_Space WSpace space, XID_Continue XIDC, XID_Start XIDS"

def set? (name : String) : Option CharSet :=
  match name with
  | "ASCII_Hex_Digit" => some (tabled hexDigits).asciiPart
  | "Alphabetic" => some alphabetic
  | "Bidi_Control" => some (tabled bidiControl)
  | "Bidi_Mirrored" => some (tabled bidiMirrored)
  | "Case_Ignorable" => some caseIgnorable
  | "Cased" => some cased
  | "Changes_When_Casefolded" => some casefolded
  | "Changes_When_Casemapped" => some casemapped
  | "Changes_When_Lowercased" => some (tabled lowercased)
  | "Changes_When_Titlecased" => some titlecased
  | "Changes_When_Uppercased" => some (tabled uppercased)
  | "Dash" => some (tabled dashes)
  | "Default_Ignorable_Code_Point" => some defaultIgnorable
  | "Deprecated" => some (tabled deprecated)
  | "Diacritic" => some (tabled diacritics)
  | "Emoji" => some (tabled emoji)
  | "Emoji_Component" => some (tabled emojiComponents)
  | "Emoji_Modifier" => some (tabled emojiModifiers)
  | "Emoji_Modifier_Base" => some (tabled emojiBases)
  | "Emoji_Presentation" => some (tabled emojiPresentation)
  | "Extended_Pictographic" => some (tabled extendedPictographic)
  | "Extender" => some (tabled extenders)
  | "Grapheme_Base" => some graphemeBase
  | "Grapheme_Extend" => some graphemeExtend
  | "Grapheme_Link" => some (tabled graphemeLinks)
  | "Hex_Digit" => some (tabled hexDigits)
  | "Hyphen" => some (tabled hyphens)
  | "IDS_Binary_Operator" => some (.ofTurns [0x2FF0, 0x2FF2, 0x2FF4, 0x2FFE, 0x31EF, 0x31F0])
  | "IDS_Trinary_Operator" => some (.ofTurns [0x2FF2, 0x2FF4])
  | "IDS_Unary_Operator" => some (.ofTurns [0x2FFE, 0x3000])
  | "ID_Compat_Math_Continue" => some (tabled formulaContinue)
  | "ID_Compat_Math_Start" => some (tabled formulaStart)
  | "ID_Continue" => some identifierContinue
  | "ID_Start" => some identifierStart
  | "Ideographic" => some (tabled ideographs)
  | "Join_Control" => some (.ofTurns [0x200C, 0x200E])
  | "Logical_Order_Exception" => some (tabled logicalOrderExceptions)
  | "Lowercase" => some lowercase
  | "Math" => some math
  | "Modifier_Combining_Mark" => some (tabled modifierMarks)
  | "Noncharacter_Code_Point" => some (tabled noncharacters)
  | "Other_Alphabetic" => some (tabled otherAlphabetic)
  | "Other_Default_Ignorable_Code_Point" => some (tabled otherDefaultIgnorable)
  | "Other_Grapheme_Extend" => some (tabled otherGraphemeExtend)
  | "Other_ID_Continue" => some (tabled otherIdentifierContinue)
  | "Other_ID_Start" => some (tabled otherIdentifierStart)
  | "Other_Lowercase" => some (tabled otherLowercase)
  | "Other_Math" => some (tabled otherMath)
  | "Other_Uppercase" => some (tabled otherUppercase)
  | "Pattern_Syntax" => some (tabled patternSyntax)
  | "Pattern_White_Space" => some (tabled patternBlanks)
  | "Prepended_Concatenation_Mark" => some (tabled prependedMarks)
  | "Quotation_Mark" => some (tabled quotationMarks)
  | "Radical" => some (tabled radicals)
  | "Regional_Indicator" => some (.ofTurns [0x1F1E6, 0x1F200])
  | "Sentence_Terminal" => some (tabled sentenceTerminals)
  | "Soft_Dotted" => some (tabled softDotted)
  | "Terminal_Punctuation" => some (tabled terminals)
  | "Unified_Ideograph" => some (tabled unifiedIdeographs)
  | "Uppercase" => some uppercase
  | "Variation_Selector" => some (tabled variationSelectors)
  | "White_Space" => some .space
  | "XID_Continue" => some (identifierContinue.diff (tabled notCompatibleContinue))
  | "XID_Start" => some (identifierStart.diff (tabled notCompatibleStart))
  | _ => none

def ofName? (name : Text) : Option CharSet := do set? (← Name.first? names name)

end Classwright.Trait
