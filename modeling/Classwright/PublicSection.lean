import Classwright.Symbol
/-!
# The public section of a class

The first line of a class that reads `public:` at the column of the class opens its public section;
the next line with any access specifier closes it. Lines are seen from the class column, so the
specifiers of a nested class, which stand further right, do not count. New members go to the end of
the section, or behind the opening brace of a class that has none.
-/
namespace Classwright

/-- The first public section of a class. Each form knows the indentation of new members. -/
inductive PublicSection where
  /-- Closed by a later access specifier. -/
  | bounded (range : Range) (indent : Text)
  /-- Runs to the last line of the class. -/
  | openEnded (range : Range) (indent : Text)
  /-- The class has no public section. -/
  | missing (indent : Text)
deriving DecidableEq

namespace PublicSection

/-- The lines of the section, when there is one. -/
def range? : PublicSection → Option Range
  | bounded r _ | openEnded r _ => some r
  | missing _ => none

/-- The white space in front of new members. -/
def indent : PublicSection → Text
  | bounded _ i | openEnded _ i | missing i => i

/-! ## Sums of line numbers

The lines of a class are numbered from the line on which an outline says that the class begins. Each
sum goes through a function `count`: `toWord` where an outline may name any line of 32 bits, and `id`
for a class that lies in a document, whose lines are too few to make a difference
(`ClassSource.wordPart_eq`). -/

section Counting

variable (count : Nat → Nat)

/-- Where new members go: behind a bounded section, in front of the last line of an open one, and
otherwise to the given place. -/
def insertionPointBy (s : PublicSection) (otherwise : Position) : Position :=
  match s with
  | bounded r _ => ⟨count (r.stop.line + 1), 0⟩
  | openEnded r _ => ⟨r.stop.line, 0⟩
  | missing _ => otherwise

/-- The lines strictly between two specifiers. An empty section stands on its specifier. -/
def linesBetweenBy (specifier stop : Nat) : Range :=
  if stop ≤ count (specifier + 1) then .at ⟨specifier, 0⟩
  else ⟨⟨count (specifier + 1), 0⟩, ⟨stop - 1, 0⟩⟩

end Counting

def insertionPoint : PublicSection → Position → Position := insertionPointBy id

def linesBetween : Nat → Nat → Range := linesBetweenBy id

/-! ## Access specifiers -/

/-- What may follow the word of a specifier: a colon, or `slots:` after white space. -/
def endsSpecifier (rest : Text) : Bool :=
  rest.startsWith ":" ||
    (rest.head?.any Text.isBlankChar && rest.trimStart.startsWith "slots:")

/-- The line begins with the specifier of this word. -/
def isSpecifier (word line : Text) : Bool := (line.stripStart? word).any endsSpecifier

def isPublic (line : Text) : Bool := isSpecifier "public" line

def isAccess (line : Text) : Bool :=
  isSpecifier "public" line || isSpecifier "private" line || isSpecifier "protected" line

/-! ## Lines of a class -/

/-- Lines of a class text, without carriage returns at their ends. -/
def linesOf (classText : Text) : List Text :=
  classText.pieces.map (Text.dropEndWhile (· == '\r'))

/-- Lines seen from a column. The class text begins at the column of the class, so its first line
is seen from there as it is. -/
def fromClassColumn (column : Nat) : List Text → List Text
  | [] => []
  | first :: rest => first :: rest.map (·.fromColumn column)

/-- The leading white space of the first line that is not blank. -/
def memberIndent? (lines : List Text) : Option Text :=
  (lines.find? (!·.isBlank)).map (·.takeWhile Text.isBlankChar)

def indentWidth : Nat := 4

/-- The indentation of members of a class at a column, when no member shows it. -/
def usualIndent (column : Nat) : Text := List.replicate (column + indentWidth) ' '

def ofClassBy (count : Nat → Nat) (c : ClassSymbol) (classText : Text) : PublicSection :=
  let column := c.range.start.character
  let first := c.range.start.line
  let lines := linesOf classText
  let views := fromClassColumn column lines
  let usual := usualIndent column
  match views.findIdx? isPublic with
  | none => missing usual
  | some i =>
    let members := lines.drop (i + 1)
    match (views.drop (i + 1)).findIdx? isAccess with
    | some k =>
      bounded (linesBetweenBy count (count (first + i)) (count (first + i + 1 + k)))
        ((memberIndent? (members.take k)).getD usual)
    | none =>
      let next := count (count (first + i) + 1)
      openEnded ⟨⟨next, 0⟩, ⟨max (count (first + (lines.length - 1))) next, 0⟩⟩
        ((memberIndent? (members.take (lines.length - 1 - (i + 1)))).getD usual)

def ofClass : ClassSymbol → Text → PublicSection := ofClassBy id

/-! ## Classes without a public section -/

/-- The first line with an opening brace: its number, the line before the brace, and the lines
after it. -/
def braceLine? : List Text → Option (Nat × Text × List Text)
  | [] => none
  | line :: rest =>
    match line.cut? ['\x7b'] with
    | some (before, _) => some (0, before, rest)
    | none => (braceLine? rest).map fun (n, before, after) => (n + 1, before, after)

/-- The place behind the opening brace: the start of the next line, or, when nothing but white space
is on the lines after it, the column behind the brace. -/
def bodyStartBy (count : Nat → Nat) (c : ClassSymbol) (classText : Text) : Position :=
  let first := c.range.start.line
  match braceLine? classText.pieces with
  | none => ⟨count (first + 1), 0⟩
  | some (n, before, after) =>
    if after.any (!·.isBlank) then ⟨count (count (first + n) + 1), 0⟩
    else
      let column := if n = 0 then c.range.start.character else 0
      ⟨count (first + n), count (column + (before.units + 1))⟩

def bodyStart : ClassSymbol → Text → Position := bodyStartBy id

end PublicSection
end Classwright
