import Classwright.Text.Basic
/-!
# UTF-8

Texts as bytes and back. Bytes that are no part of a character are kept apart, so reading loses
nothing.
-/
namespace Classwright

/-- A character, or a byte that is no part of one. -/
inductive Unit8 where
  | char (c : Char)
  | byte (b : UInt8)
deriving DecidableEq

def utf8OfChar (c : Char) : List UInt8 :=
  let n := c.toNat
  if n < 0x80 then [n.toUInt8]
  else if n < 0x800 then [(0xC0 + n / 64).toUInt8, (0x80 + n % 64).toUInt8]
  else if n < 0x10000 then
    [(0xE0 + n / 4096).toUInt8, (0x80 + n / 64 % 64).toUInt8, (0x80 + n % 64).toUInt8]
  else
    [(0xF0 + n / 262144).toUInt8, (0x80 + n / 4096 % 64).toUInt8, (0x80 + n / 64 % 64).toUInt8,
      (0x80 + n % 64).toUInt8]

def Text.utf8 (t : Text) : List UInt8 := t.flatMap utf8OfChar

/-- A byte that continues a character. -/
def isContinuation (b : UInt8) : Bool := 0x80 ≤ b && b < 0xC0

/-- The second byte is one that may follow this first byte of three or four. -/
def mayFollow (first second : UInt8) : Bool :=
  if first == 0xE0 then 0xA0 ≤ second && second < 0xC0
  else if first == 0xED then 0x80 ≤ second && second < 0xA0
  else if first == 0xF0 then 0x90 ≤ second && second < 0xC0
  else if first == 0xF4 then 0x80 ≤ second && second < 0x90
  else isContinuation second

/-- The six bits of a continuation byte. -/
def continuationBits (b : UInt8) : Nat := b.toNat - 0x80

/-- The character at the start of some bytes, and how many bytes follow its first one. -/
def charAt? : List UInt8 → Option (Char × Nat)
  | [] => none
  | a :: rest =>
    if a < 0x80 then some (Char.ofNat a.toNat, 0)
    else if a < 0xC2 then none
    else if a < 0xE0 then
      match rest with
      | b :: _ =>
        if isContinuation b then
          some (Char.ofNat ((a.toNat - 0xC0) * 64 + continuationBits b), 1)
        else none
      | _ => none
    else if a < 0xF0 then
      match rest with
      | b :: c :: _ =>
        if mayFollow a b && isContinuation c then
          some (Char.ofNat
            (((a.toNat - 0xE0) * 64 + continuationBits b) * 64 + continuationBits c), 2)
        else none
      | _ => none
    else if a < 0xF5 then
      match rest with
      | b :: c :: d :: _ =>
        if mayFollow a b && isContinuation c && isContinuation d then
          some (Char.ofNat ((((a.toNat - 0xF0) * 64 + continuationBits b) * 64 +
            continuationBits c) * 64 + continuationBits d), 3)
        else none
      | _ => none
    else none

/-- The units of some bytes, of which `skip` still belong to a character read before. -/
def unitsAfter : Nat → List UInt8 → List Unit8
  | _, [] => []
  | skip + 1, _ :: rest => unitsAfter skip rest
  | 0, a :: rest =>
    match charAt? (a :: rest) with
    | some (c, more) => .char c :: unitsAfter more rest
    | none => .byte a :: unitsAfter 0 rest

def unitsOfBytes (bytes : List UInt8) : List Unit8 := unitsAfter 0 bytes

def Unit8.bytes : Unit8 → List UInt8
  | .char c => utf8OfChar c
  | .byte b => [b]

/-- The text of units that are all characters. -/
def text? : List Unit8 → Option Text
  | [] => some []
  | .char c :: rest => (text? rest).map (c :: ·)
  | .byte _ :: _ => none

/-- How many of the units after a stray byte are the same unfinished character. -/
def unfinished (a : UInt8) : List Unit8 → Nat
  | .byte b :: rest =>
    if 0xE0 ≤ a && a < 0xF5 && mayFollow a b then
      match rest with
      | .byte c :: _ => if 0xF0 ≤ a && isContinuation c then 2 else 1
      | _ => 1
    else 0
  | _ => 0

/-- A text in which the replacement character stands for each unfinished character and each other
stray byte, after `skip` units that are already replaced. -/
def lossyAfter : Nat → List Unit8 → Text
  | _, [] => []
  | skip + 1, _ :: rest => lossyAfter skip rest
  | 0, .char c :: rest => c :: lossyAfter 0 rest
  | 0, .byte a :: rest => '\ufffd' :: lossyAfter (unfinished a rest) rest

/-- A text for units that may not all be characters. -/
def lossyText (units : List Unit8) : Text := lossyAfter 0 units

def Text.toUnits (t : Text) : List Unit8 := t.map .char

@[simp] theorem text?_toUnits (t : Text) : text? t.toUnits = some t := by
  induction t with
  | nil => rfl
  | cons c t ih => simpa [Text.toUnits, text?] using ih

@[simp] theorem lossyText_toUnits (t : Text) : lossyText t.toUnits = t := by
  induction t with
  | nil => rfl
  | cons c t ih => simpa [lossyText, Text.toUnits, lossyAfter] using ih

/-- The text of some bytes, when they are the UTF-8 form of one. -/
def Text.ofUtf8? (bytes : List UInt8) : Option Text := text? (unitsOfBytes bytes)

end Classwright

namespace Classwright.Text

/-! ## Byte offsets into a text

Offsets count bytes of the UTF-8 form, texts are lists of characters. Cutting at an offset takes
whole characters: one that the offset falls into goes to the first part. -/

/-- The first `n` bytes of a text and the rest. -/
def splitBytes : Text → Nat → Text × Text
  | [], _ => ([], [])
  | c :: rest, 0 => ([], c :: rest)
  | c :: rest, n + 1 =>
    let (before, after) := splitBytes rest (n + 1 - c.utf8Size)
    (c :: before, after)

/-- The text from one byte offset to another. -/
def slice (t : Text) (start stop : Nat) : Text :=
  ((t.splitBytes start).2.splitBytes (stop - start)).1

/-- The offset is at the start of a character or at the end of the text. -/
def isBoundary : Text → Nat → Bool
  | _, 0 => true
  | [], _ + 1 => false
  | c :: rest, n + 1 => c.utf8Size ≤ n + 1 && isBoundary rest (n + 1 - c.utf8Size)

theorem splitBytes_append (t : Text) (n : Nat) : (t.splitBytes n).1 ++ (t.splitBytes n).2 = t := by
  induction t generalizing n with
  | nil => rfl
  | cons c t ih =>
    cases n with
    | zero => rfl
    | succ n => simp [splitBytes, ih]

@[simp] theorem bytes_nil : bytes [] = 0 := rfl

@[simp] theorem bytes_cons (c : Char) (t : Text) : bytes (c :: t) = c.utf8Size + bytes t := rfl

@[simp] theorem bytes_append (s t : Text) : bytes (s ++ t) = bytes s + bytes t := by
  induction s with
  | nil => simp
  | cons c s ih => simp [ih, Nat.add_assoc]

@[simp] theorem units_nil : units [] = 0 := rfl

@[simp] theorem units_cons (c : Char) (t : Text) : units (c :: t) = unitsOf c + units t := rfl

@[simp] theorem units_append (s t : Text) : units (s ++ t) = units s + units t := by
  induction s with
  | nil => simp
  | cons c s ih => simp [ih, Nat.add_assoc]

end Classwright.Text
