import Classwright.Text.Basic
import Classwright.Text.Numeric
/-!
# Declarations in code

Finding the line that declares a function, and cutting the return type and the function with its
parameters out of it. A name counts only as a whole identifier in front of an opening parenthesis.
-/
namespace Classwright.Declaration

/-- A character that can continue an identifier. -/
def isIdentifierChar (c : Char) : Bool := isAlphanumeric c || c == '_'

/-- An identifier can start after this character, or at the start of the line. -/
def isBoundary : Option Char → Bool
  | none => true
  | some c => !isIdentifierChar c

/-- The text before and from the first occurrence of `needle` at the start of an identifier. After
an occurrence that continues an identifier the search goes on behind it: `skip` characters are still
its own. -/
def findFrom (needle : Text) : Nat → Option Char → Text → Option (Text × Text)
  | _, _, [] => none
  | skip + 1, _, c :: rest =>
    (findFrom needle skip (some c) rest).map fun (before, found) => (c :: before, found)
  | 0, previous, c :: rest =>
    if Text.startsWith (c :: rest) needle then
      if isBoundary previous then some ([], c :: rest)
      else (findFrom needle (needle.length - 1) (some c) rest).map
        fun (before, found) => (c :: before, found)
    else (findFrom needle 0 (some c) rest).map fun (before, found) => (c :: before, found)

/-- The line before and from the first whole occurrence of `needle`. -/
def findIdentifier (line needle : Text) : Option (Text × Text) := findFrom needle 0 none line

/-- A line with nothing but a comment. -/
def isComment (line : Text) : Bool := line.trimStart.startsWith "//"

/-- The first line of code that has `name(`, cut before the name. -/
def declarationLine (code name : Text) : Option (Text × Text) :=
  (code.lines.filter (!isComment ·)).findSome? (findIdentifier · (name ++ "("))

/-! ## Return type -/

/-- Qualifiers in front of a return type, the strongest first. -/
def qualifiers : List Text := ["static", "virtual", "public:", "private:", "protected:"]

/-- What marks a template, whose return type is left out. -/
def templateMarks : List Text := ["template<", "template <"]

def afterQualifier (before : Text) : Text :=
  (qualifiers.findSome? fun key => (before.cut? key).map (·.2)).getD before

/-- The return type in front of a function's name. -/
def returnType (code name : Text) : Option Text :=
  if templateMarks.any code.has then some []
  else do
    let (before, _) ← declarationLine code name
    return (afterQualifier before).trim

/-! ## The function itself -/

/-- Specifiers that a definition outside the class does not repeat. -/
def declarationOnly : List Text := ["override", "final", "= 0"]

/-- One specifier less at the end, with the white space before it. -/
def dropSuffix? (main : Text) : Option Text :=
  (declarationOnly.findSome? (main.stripEnd? ·)).map Text.trimEnd

/-- All such specifiers dropped; each takes some characters, so the length bounds their number. -/
def dropSuffixes : Nat → Text → Text
  | 0, main => main
  | fuel + 1, main =>
    match dropSuffix? main with
    | some shorter => dropSuffixes fuel shorter
    | none => main

/-- The text without declaration-only specifiers and white space at its end. -/
def withoutSuffixes (main : Text) : Text := dropSuffixes main.length main.trimEnd

/-- `name(parameters)` and the qualifiers after it. -/
def functionMain (code name : Text) : Option Text :=
  if name.isEmpty then none
  else do
    let (_, main) ← declarationLine code name
    return withoutSuffixes main

end Classwright.Declaration
