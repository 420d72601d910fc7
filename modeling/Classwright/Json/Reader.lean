import Classwright.Json.Basic
/-!
# Reading JSON

A text holds one value with blanks around it. Nesting stops at 127 levels; a string holds no raw
control character and no lone surrogate escape.

A number without point and exponent is a whole number as long as it fits 64 bits. Any other number
is a double: its leading digits form a whole number of 64 bits, which is rounded to a double and
then multiplied with or divided by a rounded power of ten.
-/
namespace Classwright.Json

/-- White space between tokens. -/
def isSpace (c : Char) : Bool := c == ' ' || c == '\n' || c == '\t' || c == '\r'

def skipSpace (t : Text) : Text := t.dropWhile isSpace

/-! ## Numbers -/

/-- Digits appended to a whole number as long as it stays below `2 ^ 64`: the number, how many
digits it took, and the rest of the digits and of the text. -/
def takeDigits (value count : Nat) : Text → Nat × Nat × Text
  | [] => (value, count, [])
  | c :: rest =>
    if c.isDigit && value * 10 + digitValue c < twoTo 64 then
      takeDigits (value * 10 + digitValue c) (count + 1) rest
    else (value, count, c :: rest)

/-- Divide by `10 ^ 308` until the exponent is in range of the powers of ten; a double that has
become zero stays zero. -/
def scaleDown : Nat → Double → Nat → Option Double
  | 0, d, _ => some d
  | fuel + 1, d, k =>
    if d.mantissa = 0 then some d
    else if k ≤ 308 then d.div? (.powerOfTen k)
    else (d.div? (.powerOfTen 308)).bind (scaleDown fuel · (k - 308))

/-- The double `± significand · 10 ^ exponent`; none when it is too large. -/
def doubleOfParts (negative : Bool) (significand : Nat) (exponent : Int) : Option Double := do
  let d ← Double.ofRatio? negative significand 1
  if exponent < 0 then scaleDown 4 d (-exponent).toNat
  else if exponent ≤ 308 then d.mul? (.powerOfTen exponent.toNat)
  else if d.mantissa = 0 then some d
  else none

/-- Largest exponent that is read as a number; a longer one only says "very large". -/
def maxExponent : Nat := twoTo 31 - 1

/-- The number after its digits, at an exponent mark. -/
def readExponent (negative : Bool) (significand : Nat) (start : Int) (t : Text) :
    Option (Json × Text) :=
  let (down, t) := match t with
    | '+' :: rest => (false, rest)
    | '-' :: rest => (true, rest)
    | _ => (false, t)
  let digits := t.takeWhile Char.isDigit
  let rest := t.dropWhile Char.isDigit
  if digits.isEmpty then none
  else
    let e := valueOfDigits digits
    if maxExponent < e then
      if significand ≠ 0 ∧ !down then none
      else some (.double ⟨negative, 0, -1074⟩, rest)
    else
      let e : Int := if down then start - e else start + e
      (doubleOfParts negative significand e).map fun d => (.double d, rest)

/-- The number after its digits and fraction: an exponent, or the end. -/
def readAfterFraction (negative : Bool) (significand : Nat) (exponent : Int) (t : Text) :
    Option (Json × Text) :=
  match t with
  | 'e' :: rest | 'E' :: rest => readExponent negative significand exponent rest
  | _ => (doubleOfParts negative significand exponent).map fun d => (.double d, t)

/-- The number at its point. Fraction digits that no longer fit are skipped. -/
def readFraction (negative : Bool) (significand : Nat) (exponent : Int) (t : Text) :
    Option (Json × Text) :=
  let (value, count, rest) := takeDigits significand 0 t
  if (t.takeWhile Char.isDigit).isEmpty then none
  else readAfterFraction negative value (exponent - count) (rest.dropWhile Char.isDigit)

/-- The number after its whole digits. -/
def readAfterWhole (negative : Bool) (significand : Nat) (t : Text) : Option (Json × Text) :=
  match t with
  | '.' :: rest => readFraction negative significand 0 rest
  | 'e' :: _ | 'E' :: _ => readAfterFraction negative significand 0 t
  | _ =>
    if !negative then some (.int significand, t)
    else if significand = 0 ∨ twoTo 63 < significand then
      (Double.ofRatio? true significand 1).map fun d => (.double d, t)
    else some (.int (-significand), t)

/-- A number whose whole digits do not fit 64 bits: each further digit only raises the exponent. -/
def readLong (negative : Bool) (significand : Nat) (t : Text) : Option (Json × Text) :=
  let exponent := (t.takeWhile Char.isDigit).length
  match t.dropWhile Char.isDigit with
  | '.' :: rest => readFraction negative significand exponent rest
  | rest => readAfterFraction negative significand exponent rest

/-- A number without its sign. -/
def readUnsigned (negative : Bool) (t : Text) : Option (Json × Text) :=
  match t with
  | [] => none
  | c :: rest =>
    if c = '0' then
      match rest with
      | d :: _ => if d.isDigit then none else readAfterWhole negative 0 rest
      | [] => readAfterWhole negative 0 rest
    else if c.isDigit then
      let (value, _, more) := takeDigits (digitValue c) 0 rest
      match more with
      | d :: _ =>
        if d.isDigit then readLong negative value more else readAfterWhole negative value more
      | [] => readAfterWhole negative value more
    else none

/-! ## Strings -/

/-- The value of four hexadecimal digits. -/
def hex4? : Text → Option (Nat × Text)
  | a :: b :: c :: d :: rest => do
    let a ← hexValue? a
    let b ← hexValue? b
    let c ← hexValue? c
    let d ← hexValue? d
    some (((a * 16 + b) * 16 + c) * 16 + d, rest)
  | _ => none

def readEscape : Text → Option (Char × Text)
  | '"' :: rest => some ('"', rest)
  | '\\' :: rest => some ('\\', rest)
  | '/' :: rest => some ('/', rest)
  | 'b' :: rest => some ('\x08', rest)
  | 'f' :: rest => some ('\x0c', rest)
  | 'n' :: rest => some ('\n', rest)
  | 'r' :: rest => some ('\r', rest)
  | 't' :: rest => some ('\t', rest)
  | 'u' :: rest =>
    match hex4? rest with
    | none => none
    | some (high, rest) =>
      if 0xD800 ≤ high ∧ high < 0xDC00 then
        match rest with
        | '\\' :: 'u' :: rest =>
          match hex4? rest with
          | none => none
          | some (low, rest) =>
            if 0xDC00 ≤ low ∧ low < 0xE000 then
              some (Char.ofNat (0x10000 + (high - 0xD800) * 0x400 + (low - 0xDC00)), rest)
            else none
        | _ => none
      else if 0xDC00 ≤ high ∧ high < 0xE000 then none
      else some (Char.ofNat high, rest)
  | _ => none

/-- The rest of a string after its opening quote; `fuel` bounds the characters read. -/
def readString : Nat → Text → Option (Text × Text)
  | 0, _ => none
  | _ + 1, [] => none
  | fuel + 1, c :: rest =>
    if c = '"' then some ([], rest)
    else if c = '\\' then
      match readEscape rest with
      | none => none
      | some (e, rest) => (readString fuel rest).map fun (t, rest) => (e :: t, rest)
    else if c.toNat < 0x20 then none
    else (readString fuel rest).map fun (t, rest) => (c :: t, rest)

/-! ## Values -/

mutual
/-- A value at the start of the text, inside at most `depth` more levels. Each call takes a token,
so twice the length of the text is fuel enough. -/
def readValue : Nat → Nat → Text → Option (Json × Text)
  | 0, _, _ => none
  | fuel + 1, depth, t =>
    match skipSpace t with
    | 'n' :: 'u' :: 'l' :: 'l' :: rest => some (.null, rest)
    | 't' :: 'r' :: 'u' :: 'e' :: rest => some (.bool true, rest)
    | 'f' :: 'a' :: 'l' :: 's' :: 'e' :: rest => some (.bool false, rest)
    | '"' :: rest => (readString (rest.length + 1) rest).map fun (s, rest) => (.str s, rest)
    | '-' :: rest => readUnsigned true rest
    | '[' :: rest =>
      match depth with
      | 0 => none
      | depth + 1 =>
        match skipSpace rest with
        | ']' :: rest => some (.arr [], rest)
        | _ => (readItems fuel depth rest).map fun (items, rest) => (.arr items, rest)
    | '\x7b' :: rest =>
      match depth with
      | 0 => none
      | depth + 1 =>
        match skipSpace rest with
        | '\x7d' :: rest => some (.obj [], rest)
        | _ => (readFields fuel depth rest).map fun (fields, rest) => (ofFields fields, rest)
    | other => readUnsigned false other

/-- The items of an array that is not empty, up to its closing bracket. -/
def readItems : Nat → Nat → Text → Option (List Json × Text)
  | 0, _, _ => none
  | fuel + 1, depth, t =>
    match readValue fuel depth t with
    | none => none
    | some (j, rest) =>
      match skipSpace rest with
      | ',' :: rest => (readItems fuel depth rest).map fun (items, rest) => (j :: items, rest)
      | ']' :: rest => some ([j], rest)
      | _ => none

/-- The fields of an object that is not empty, up to its closing brace. -/
def readFields : Nat → Nat → Text → Option (List (Text × Json) × Text)
  | 0, _, _ => none
  | fuel + 1, depth, t =>
    match skipSpace t with
    | '"' :: rest =>
      match readString (rest.length + 1) rest with
      | none => none
      | some (key, rest) =>
        match skipSpace rest with
        | ':' :: rest =>
          match readValue fuel depth rest with
          | none => none
          | some (j, rest) =>
            match skipSpace rest with
            | ',' :: rest =>
              (readFields fuel depth rest).map fun (fields, rest) => ((key, j) :: fields, rest)
            | '\x7d' :: rest => some ([(key, j)], rest)
            | _ => none
        | _ => none
    | _ => none
end

/-- Deepest nesting of arrays and objects. -/
def maxDepth : Nat := 127

/-- The value that a text holds. -/
def read? (t : Text) : Option Json :=
  match readValue (2 * t.length + 2) maxDepth t with
  | some (j, rest) => if (skipSpace rest).isEmpty then some j else none
  | none => none

end Classwright.Json
