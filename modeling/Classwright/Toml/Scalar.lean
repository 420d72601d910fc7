import Classwright.Json.Basic
/-!
# Scalars of a TOML file

Strings in their four forms, numbers, truth values and dates, each read from the start of a text. A
scalar becomes a JSON value: a date becomes an object with its text, and a number that JSON does not
have becomes null.
-/
namespace Classwright.Toml

abbrev Reader (α : Type) := Text → Option (α × Text)

/-! ## Blanks -/

/-- White space on a line. -/
def isBlank (c : Char) : Bool := c == ' ' || c == '\t'

/-- The text behind white space on its line. -/
def skipBlanks (t : Text) : Text := t.dropWhile isBlank

/-- The text behind a line end. -/
def newline? : Text → Option Text
  | '\n' :: rest => some rest
  | '\r' :: '\n' :: rest => some rest
  | _ => none

/-- A character that may stand in strings and comments; of the controls, only the tab. -/
def isShown (c : Char) : Bool := c == '\t' || (0x20 ≤ c.toNat && c.toNat != 0x7F)

def skipComment (t : Text) : Text :=
  match t with
  | '#' :: rest => rest.dropWhile isShown
  | _ => t

/-- The text behind the end of a line: blanks, a comment, and a line end or the end of the file. -/
def endLine? (t : Text) : Option Text :=
  match skipComment (skipBlanks t) with
  | [] => some []
  | rest => newline? rest

/-- The text behind white space, comments and line ends. -/
def skipLines : Nat → Text → Text
  | 0, t => t
  | fuel + 1, t =>
    let rest := skipComment (skipBlanks t)
    match newline? rest with
    | some rest => skipLines fuel rest
    | none => rest

/-! ## Strings -/

def escaped? (c : Char) : Option Char :=
  match c with
  | 'b' => some '\x08'
  | 't' => some '\t'
  | 'n' => some '\n'
  | 'f' => some '\x0c'
  | 'r' => some '\r'
  | '"' => some '"'
  | '\\' => some '\\'
  | _ => none

/-- The character with the number that hexadecimal digits write. -/
def charOfHex? (digits : Text) : Option Char := do
  let n ← digits.foldl (fun n c => do return (← n) * 16 + (← hexValue? c)) (some 0)
  if h : n.isValidChar then some (Char.ofNatAux n h) else none

/-- An escape behind its backslash: its character, and how many characters it takes there. -/
def escape? (t : Text) : Option (Char × Nat) :=
  match t with
  | [] => none
  | c :: rest =>
    let digits := if c == 'u' then 4 else if c == 'U' then 8 else 0
    if digits = 0 then (escaped? c).map (·, 1)
    else if rest.length < digits then none
    else (charOfHex? (rest.take digits)).map (·, digits + 1)

/-- The rest of a string on one line, after `skip` characters that belong to an escape. -/
def lineString : Nat → Reader Text
  | _, [] => none
  | skip + 1, _ :: rest => lineString skip rest
  | 0, c :: rest =>
    if c == '"' then some ([], rest)
    else if c == '\\' then do
      let (e, length) ← escape? rest
      let (t, rest) ← lineString length rest
      return (e :: t, rest)
    else if isShown c then (lineString 0 rest).map fun (t, rest) => (c :: t, rest)
    else none

/-- The rest of a literal string on one line. -/
def lineLiteral (t : Text) : Option (Text × Text) :=
  let content : Text := t.takeWhile fun c => isShown c && c != '\''
  (Text.stripStart? (t.drop content.length) ['\'']).map (content, ·)

/-- At least three quotes end a long string; up to two of them belong to it. -/
def closing? (quote : Char) (t : Text) : Option (Text × Text) :=
  let run : Text := (t.takeWhile (· == quote)).take 5
  if run.length < 3 then none else some (run.drop 3, t.drop run.length)

/-- The rest of a long literal string. Line ends become line feeds. -/
def longLiteral : Reader Text
  | [] => none
  | c :: rest =>
    match closing? '\'' (c :: rest) with
    | some r => some r
    | none =>
      if c == '\r' then if rest.head? == some '\n' then longLiteral rest else none
      else if isShown c || c == '\n' then (longLiteral rest).map fun (t, rest) => (c :: t, rest)
      else none

/-- Where a long string is read: at its text, in an escape that was read already, or behind a
backslash at the end of a line, which hides all white space after it. -/
inductive LongState where
  | plain
  | inEscape (skip : Nat)
  | hidden

/-- The rest of a long string. Line ends become line feeds. -/
def longString : LongState → Reader Text
  | _, [] => none
  | .inEscape (skip + 1), _ :: rest => longString (.inEscape skip) rest
  | state, c :: rest =>
    let isHidden := match state with
      | .hidden => isBlank c || (newline? (c :: rest)).isSome
      | _ => false
    if isHidden then longString .hidden rest
    else match closing? '"' (c :: rest) with
      | some r => some r
      | none =>
        if c == '\\' then
          if (newline? (skipBlanks rest)).isSome then longString .hidden rest
          else do
            let (e, length) ← escape? rest
            let (t, rest) ← longString (.inEscape length) rest
            return (e :: t, rest)
        else if c == '\r' then
          if rest.head? == some '\n' then longString .plain rest else none
        else if isShown c || c == '\n' then
          (longString .plain rest).map fun (t, rest) => (c :: t, rest)
        else none

/-- The text behind a line end that follows the opening quotes of a long string. -/
def dropFirstNewline (t : Text) : Text := (newline? t).getD t

def shortString? (t : Text) : Option (Text × Text) :=
  match t with
  | '"' :: rest => lineString 0 rest
  | '\'' :: rest => lineLiteral rest
  | _ => none

def string? (t : Text) : Option (Text × Text) :=
  match t with
  | '"' :: '"' :: '"' :: rest => longString .plain (dropFirstNewline rest)
  | '\'' :: '\'' :: '\'' :: rest => longLiteral (dropFirstNewline rest)
  | _ => shortString? t

/-! ## Numbers -/

/-- More digits, each of which may have an underscore in front. -/
def moreDigits (isDigit : Char → Bool) : Text → Text × Text
  | [] => ([], [])
  | c :: rest =>
    if isDigit c then
      let (digits, rest) := moreDigits isDigit rest
      (c :: digits, rest)
    else match c, rest with
      | '_', d :: more =>
        if isDigit d then
          let (digits, rest) := moreDigits isDigit more
          (d :: digits, rest)
        else ([], c :: rest)
      | _, _ => ([], c :: rest)

/-- Digits with underscores between some of them. -/
def digits? (isDigit : Char → Bool) (t : Text) : Option (Text × Text) :=
  if t.head?.any isDigit then some (moreDigits isDigit t) else none

/-- A sign, which may be missing: it is a minus. -/
def sign (t : Text) : Bool × Text :=
  match t with
  | '+' :: rest => (false, rest)
  | '-' :: rest => (true, rest)
  | _ => (false, t)

/-- Decimal digits, of which the first one is no zero if there are others. -/
def decimal? (t : Text) : Option (Text × Text) :=
  match t with
  | '0' :: rest => some (['0'], rest)
  | _ => digits? Char.isDigit t

/-- A whole number of 64 bits with sign. -/
def wholeNumber? (n : Int) : Option Json :=
  if -(twoTo 63 : Int) ≤ n ∧ n < (twoTo 63 : Int) then some (.int n) else none

/-- A whole number in a base other than ten. -/
def based? (base : Nat) (t : Text) : Option (Json × Text) := do
  let isDigit := fun c => (hexValue? c).any (· < base)
  let (digits, rest) ← digits? isDigit t
  let n := digits.foldl (fun n c => n * base + (hexValue? c).getD 0) 0
  return (← wholeNumber? n, rest)

/-- A whole number. -/
def integer? (t : Text) : Option (Json × Text) :=
  match t with
  | '0' :: 'x' :: rest => based? 16 rest
  | '0' :: 'o' :: rest => based? 8 rest
  | '0' :: 'b' :: rest => based? 2 rest
  | _ => do
    let (negative, rest) := sign t
    let (digits, rest) ← decimal? rest
    let n : Int := valueOfDigits digits
    return (← wholeNumber? (if negative then -n else n), rest)

def exponent? (t : Text) : Option (Int × Text) :=
  match t with
  | 'e' :: rest | 'E' :: rest => do
    let (negative, rest) := sign rest
    let (digits, rest) ← digits? Char.isDigit rest
    let n : Int := valueOfDigits digits
    return (if negative then -n else n, rest)
  | _ => none

/-- Exponents beyond this make any number zero or too large. -/
def farExponent (digits : Nat) : Int := 400 + digits

/-- The number with some digits and a power of ten. One that is too large is refused, or has no
value when it is negative. -/
def scaled? (negative : Bool) (digits : Text) (exponent : Int) : Option Json :=
  let n := valueOfDigits digits
  let far := farExponent digits.length
  let e := if far < exponent then far else if exponent < -far then -far else exponent
  match Double.ofRatio? negative (n * tenTo e.toNat) (tenTo (-e).toNat) with
  | some d => some (.double d)
  | none => if negative then some .null else none

/-- A number with a fraction, an exponent, or both; or one of the special numbers. -/
def float? (t : Text) : Option (Json × Text) := do
  let (negative, rest) := sign t
  match (Text.stripStart? rest "inf").or (Text.stripStart? rest "nan") with
  | some rest => return (.null, rest)
  | none =>
    let (whole, rest) ← decimal? rest
    match rest with
    | '.' :: rest =>
      let (fraction, rest) ← digits? Char.isDigit rest
      let (e, rest) := (exponent? rest).getD (0, rest)
      return (← scaled? negative (whole ++ fraction) (e - fraction.length), rest)
    | _ =>
      let (e, rest) ← exponent? rest
      return (← scaled? negative whole e, rest)

/-! ## Dates and times -/

/-- So many digits, for a number in bounds. -/
def fixed? (count first last : Nat) (t : Text) : Option (Nat × Text) :=
  let digits : Text := t.take count
  let n := valueOfDigits digits
  if digits.length = count ∧ digits.all Char.isDigit ∧ first ≤ n ∧ n ≤ last then
    some (n, t.drop count)
  else none

def daysIn (year month : Nat) : Nat :=
  if month = 2 then if year % 4 = 0 ∧ (year % 100 ≠ 0 ∨ year % 400 = 0) then 29 else 28
  else if month = 4 ∨ month = 6 ∨ month = 9 ∨ month = 11 then 30
  else 31

def afterDate? (t : Text) : Option Text := do
  let (year, t) ← fixed? 4 0 9999 t
  let (month, t) ← fixed? 2 1 12 (← t.stripStart? "-")
  let (_, t) ← fixed? 2 1 (daysIn year month) (← Text.stripStart? t "-")
  return t

def afterTime? (t : Text) : Option Text := do
  let (_, t) ← fixed? 2 0 23 t
  let (_, t) ← fixed? 2 0 59 (← Text.stripStart? t ":")
  let (_, t) ← fixed? 2 0 60 (← Text.stripStart? t ":")
  match t with
  | '.' :: rest => if rest.head?.any Char.isDigit then return rest.dropWhile Char.isDigit else none
  | _ => return t

/-- The text behind an offset from universal time. -/
def afterOffset? (t : Text) : Option Text :=
  match t with
  | 'Z' :: rest | 'z' :: rest => some rest
  | '+' :: rest | '-' :: rest => do
    let (_, t) ← fixed? 2 0 23 rest
    let (_, t) ← fixed? 2 0 59 (← Text.stripStart? t ":")
    return t
  | _ => none

/-- The text behind the time that may follow a date. -/
def afterTimeOfDate? (t : Text) : Option Text :=
  match t with
  | c :: rest =>
    if c == 'T' || c == 't' || c == ' ' then do
      let t ← afterTime? rest
      return (afterOffset? t).getD t
    else none
  | [] => none

def dateTime? (t : Text) : Option (Json × Text) := do
  let rest ← match afterDate? t with
    | some rest => some ((afterTimeOfDate? rest).getD rest)
    | none => afterTime? t
  return (.ofFields [("datetime", .str (t.take (t.length - rest.length)))], rest)

/-! ## All scalars -/

/-- A truth value. -/
def bool? (t : Text) : Option (Json × Text) :=
  match t.stripStart? "true", t.stripStart? "false" with
  | some rest, _ => some (.bool true, rest)
  | none, some rest => some (.bool false, rest)
  | none, none => none

def scalar? (t : Text) : Option (Json × Text) :=
  match t with
  | '"' :: _ | '\'' :: _ => (string? t).map fun (s, rest) => (.str s, rest)
  | 't' :: _ | 'f' :: _ => bool? t
  | _ => (dateTime? t).or ((float? t).or (integer? t))

end Classwright.Toml
