import Classwright.Number.Digits
import Classwright.Pattern.Basic
import Classwright.Property.Query
/-!
# Escapes in patterns

The flags under which a pattern is read, and what a backslash stands for: a character, a set of
characters or a condition on the place.
-/
namespace Classwright

/-- How the pattern is read, and how it matches. -/
structure PatternFlags where
  ignoreCase : Bool := false
  multiLine : Bool := false
  dotAll : Bool := false
  /-- Repetitions are lazy unless they say otherwise. -/
  swapGreed : Bool := false
  unicode : Bool := true
  /-- White space and comments in the pattern do not count. -/
  verbose : Bool := false
  /-- A carriage return ends a line too. -/
  returns : Bool := false
deriving DecidableEq

/-- What an escape stands for. -/
inductive Escape where
  | char (c : Char)
  | set (s : CharSet)
  | anchor (a : Anchor)

namespace PatternFlags

/-- The text behind white space and comments; `inComment` says that it begins in a comment. -/
def skipBlank (inComment : Bool) : Text → Text
  | [] => []
  | c :: rest =>
    if inComment then skipBlank (c != '\n') rest
    else if Text.isBlankChar c then skipBlank false rest
    else if c == '#' then skipBlank true rest
    else c :: rest

/-- The text without what does not count at its start. -/
def skip (f : PatternFlags) (t : Text) : Text := if f.verbose then skipBlank false t else t

/-- The text behind its first character and what does not count after it, if anything is left. -/
def bump? (f : PatternFlags) (t : Text) : Option Text :=
  match f.skip (t.drop 1) with
  | [] => none
  | rest => some rest

/-- A set as these flags see it: up to case, when case is ignored. -/
def folded (f : PatternFlags) (s : CharSet) : CharSet :=
  if !f.ignoreCase then s else if f.unicode then s.anyCase else s.anyCase.asciiPart

/-- A set that these flags admit. Without the character standard a set can hold ASCII characters
only, for other characters are made of pieces. -/
def admitted? (f : PatternFlags) (s : CharSet) : Option CharSet :=
  if f.unicode || s.isAscii then some s else none

/-- A class up to case, or all that is not in it. -/
def class? (f : PatternFlags) (negated : Bool) (s : CharSet) : Option CharSet :=
  f.admitted? (if negated then (f.folded s).complement else f.folded s)

/-- The pattern of a literal character. Case does not count for characters that are made of
pieces. -/
def literal (f : PatternFlags) (c : Char) : Pattern :=
  if f.unicode || c.toNat < 0x80 then .ofSet (f.folded (.one c)) else .literal [c]

def condition (f : PatternFlags) (a : Anchor) : Pattern := .anchor a (a.needsWords && !f.unicode)

def dot (f : PatternFlags) : CharSet :=
  if f.dotAll then .all else .allBut (if f.returns then "\r\n" else "\n")

/-- What `^` stands for. -/
def caret (f : PatternFlags) : Anchor :=
  if !f.multiLine then .textStart else if f.returns then .returnLineStart else .lineStart

/-- What `$` stands for. -/
def dollar (f : PatternFlags) : Anchor :=
  if !f.multiLine then .textEnd else if f.returns then .returnLineEnd else .lineEnd

end PatternFlags

namespace Escape

/-- Characters with a meaning of their own in patterns. -/
def metaChars : Text := "\\.+*?()|[]\x7b\x7d^$#&-~"

/-- A character of ASCII that stands for itself behind a backslash. -/
def isPlain (c : Char) : Bool :=
  metaChars.contains c || (c.toNat < 0x80 && !c.isAlphanum && c != '<' && c != '>')

def charOf? (n : Nat) : Option Char := if h : n.isValidChar then some (Char.ofNatAux n h) else none

def hexNumber? (digits : Text) : Option Nat :=
  digits.foldl (fun n c => do return (← n) * 16 + (← hexValue? c)) (some 0)

/-- What counts up to a closing brace, with the text behind it. -/
def braced? (f : PatternFlags) : Nat → Text → Option (Text × Text)
  | 0, _ => none
  | fuel + 1, t =>
    match t with
    | [] => none
    | c :: _ =>
      if c == '\x7d' then some ([], f.skip (t.drop 1))
      else do
        let (inside, rest) ← braced? f fuel (← f.bump? t)
        return (c :: inside, rest)

/-- A number of digits, with the text behind them. -/
def fixedHex? (f : PatternFlags) : Nat → Text → Option (Text × Text)
  | 0, t => some ([], t)
  | n + 1, t =>
    match t with
    | [] => none
    | c :: _ => do
      let (digits, rest) ← fixedHex? f n (f.skip (t.drop 1))
      return (c :: digits, rest)

/-- A character by its number in braces, or of so many digits. -/
def hexChar? (f : PatternFlags) (digits : Nat) (t : Text) : Option (Char × Text) := do
  let (number, rest) ← match t with
    | '\x7b' :: _ => braced? f t.length (← f.bump? t)
    | _ => fixedHex? f digits t
  if number.isEmpty then none
  return (← charOf? (← hexNumber? number), rest)

/-- Two digits are a byte, which is a character of its own below U+0080 only. -/
def byteChar? (f : PatternFlags) (t : Text) : Option (Char × Text) := do
  let (c, rest) ← hexChar? f 2 t
  if !f.unicode && c.toNat ≥ 0x80 && t.head? != some '\x7b' then none else return (c, rest)

/-- A property: one letter, or a name in braces. -/
def property? (f : PatternFlags) (t : Text) : Option (CharSet × Text) := do
  let (name, rest) ← match t with
    | '\x7b' :: _ => braced? f t.length (← f.bump? t)
    | '\\' :: _ => none
    | c :: rest => some ([c], f.skip rest)
    | [] => none
  return (← Property.ask? name, rest)

/-- The special kinds of word edges. -/
def edge? (name : Text) : Option Anchor :=
  match String.ofList name with
  | "start" => some .wordStart
  | "end" => some .wordEnd
  | "start-half" => some .wordStartHalf
  | "end-half" => some .wordEndHalf
  | _ => none

/-- What is behind the `b` of a word edge: a kind in braces, or nothing when the brace begins a
count. -/
def wordEdge? (f : PatternFlags) (t : Text) : Option (Escape × Text) :=
  match t with
  | '\x7b' :: _ => do
    let inside ← f.bump? t
    if inside.head?.any fun c => c.isAlpha || c == '-' then
      let (name, rest) ← braced? f t.length inside
      return (.anchor (← edge? name), rest)
    else return (.anchor .wordEdge, t)
  | _ => some (.anchor .wordEdge, t)

/-- A class of the character standard or its ASCII part, or all that is not in it. Case makes no
difference to these classes. -/
def standardClass? (f : PatternFlags) (negated : Bool) (s : CharSet) : Option Escape := do
  let s := if f.unicode then s else s.asciiPart
  return .set (← f.admitted? (if negated then s.complement else s))

/-- A property, or all that does not have it. -/
def propertyClass? (f : PatternFlags) (negated : Bool) (t : Text) : Option (Escape × Text) := do
  if !f.unicode then none
  let (s, rest) ← property? f t
  return (.set (← f.class? negated s), rest)

/-- What a backslash in front of a text stands for, and the text behind the escape. -/
def read? (f : PatternFlags) : Text → Option (Escape × Text)
  | [] => none
  | c :: rest =>
    if isPlain c then some (.char c, rest)
    else match c with
      | 'x' => do
        let (c, rest) ← byteChar? f (f.skip rest)
        return (.char c, rest)
      | 'u' => do
        let (c, rest) ← hexChar? f 4 (f.skip rest)
        return (.char c, rest)
      | 'U' => do
        let (c, rest) ← hexChar? f 8 (f.skip rest)
        return (.char c, rest)
      | 'p' => propertyClass? f false (f.skip rest)
      | 'P' => propertyClass? f true (f.skip rest)
      | 'd' => (standardClass? f false .digit).map (·, rest)
      | 'D' => (standardClass? f true .digit).map (·, rest)
      | 's' => (standardClass? f false .space).map (·, rest)
      | 'S' => (standardClass? f true .space).map (·, rest)
      | 'w' => (standardClass? f false .word).map (·, rest)
      | 'W' => (standardClass? f true .word).map (·, rest)
      | 'a' => some (.char '\x07', rest)
      | 'f' => some (.char '\x0c', rest)
      | 't' => some (.char '\t', rest)
      | 'n' => some (.char '\n', rest)
      | 'r' => some (.char '\r', rest)
      | 'v' => some (.char '\x0b', rest)
      | 'A' => some (.anchor .textStart, rest)
      | 'z' => some (.anchor .textEnd, rest)
      | 'b' => wordEdge? f rest
      | 'B' => some (.anchor .noWordEdge, rest)
      | '<' => some (.anchor .wordStart, rest)
      | '>' => some (.anchor .wordEnd, rest)
      | _ => none

end Escape
end Classwright
