import Classwright.Text.Basic
/-!
# Labels in ASCII

A label of a domain that is not ASCII is written as its ASCII characters, a hyphen, and the places
of the other characters. These are put in by their code points, from the smallest on; a delta counts
the places that are passed over, and is written in digits of variable length.
-/
namespace Classwright.Label

/-- What a label starts with when it stands for one beyond ASCII. -/
def mark : Text := "xn--"

/-- The bias after a delta. -/
def adapt (delta points : Nat) (first : Bool) : Nat :=
  let delta := if first then delta / 700 else delta / 2
  go 10 (delta + delta / points) 0
where
  go : Nat → Nat → Nat → Nat
    | 0, _, k => k
    | fuel + 1, delta, k =>
      if 455 < delta then go fuel (delta / 35) (k + 36) else k + 36 * delta / (delta + 38)

/-- The digit from which on another digit follows. -/
def threshold (k bias : Nat) : Nat :=
  if k ≤ bias then 1 else if bias + 26 ≤ k then 26 else k - bias

/-! ## Writing -/

/-- A digit of a delta: `a` to `z`, then `0` to `9`. -/
def digitChar (d : Nat) : Char := if d < 26 then Char.ofNat (97 + d) else Char.ofNat (22 + d)

/-- A delta in digits; `fuel` bounds their number. -/
def deltaText : Nat → Nat → Nat → Nat → Text
  | 0, _, _, _ => []
  | fuel + 1, q, k, bias =>
    let t := threshold k bias
    if q < t then [digitChar q]
    else digitChar (t + (q - t) % (36 - t)) :: deltaText fuel ((q - t) / (36 - t)) (k + 36) bias

/-- Where the encoding of a label stands: the delta since the last written character, the bias, the
number of characters handled, and the text so far. -/
structure Draft where
  delta : Nat
  bias : Nat
  handled : Nat
  out : Text

/-- One character of the label, while `point` is the next one to write. -/
def step (basic point : Nat) (s : Draft) (c : Char) : Draft :=
  if c.toNat < point then { s with delta := s.delta + 1 }
  else if c.toNat = point then
    { delta := 0
      bias := adapt s.delta (s.handled + 1) (s.handled == basic)
      handled := s.handled + 1
      out := s.out ++ deltaText 40 s.delta 36 s.bias }
  else s

/-- The characters from a code point on, in their order; `fuel` bounds the different ones. -/
def writeFrom (basic : Nat) (label : Text) : Nat → Nat → Draft → Draft
  | 0, _, s => s
  | fuel + 1, point, s =>
    match ((label.map Char.toNat).filter (point ≤ ·)).min? with
    | none => s
    | some next =>
      let s := { s with delta := s.delta + (next - point) * (s.handled + 1) }
      let s := label.foldl (step basic next) s
      writeFrom basic label fuel (next + 1) { s with delta := s.delta + 1 }

/-- The most characters of a label that is written in ASCII. -/
def maxLength : Nat := 1000

def encode? (label : Text) : Option Text :=
  if label.all (·.toNat < 0x80) then some label
  else if maxLength < label.length then none
  else
    let basic := label.filter (·.toNat < 0x80)
    let start : Text := if basic.isEmpty then [] else basic ++ "-"
    some (mark ++ (writeFrom basic.length label label.length 0x80 ⟨0, 72, basic.length, start⟩).out)

/-! ## Reading -/

/-- The value of a digit of a delta. -/
def digit? (c : Char) : Option Nat :=
  if c.isAlpha then some (c.toLower.toNat - 97)
  else if c.isDigit then some (c.toNat - 22)
  else none

/-- A delta, with its weight so far, and the text behind it. -/
def readDelta? (bias : Nat) : Nat → Nat → Nat → Text → Option (Nat × Text)
  | _, _, _, [] => none
  | k, weight, delta, c :: rest => do
    let d ← digit? c
    let t := threshold k bias
    if d < t then return (delta + d * weight, rest)
    readDelta? bias (k + 36) (weight * (36 - t)) (delta + d * weight) rest

/-- Put characters into a label. `point` and `last` say where the one before was put: its code
point, and the place behind it. Each takes at least one digit, so `fuel` may be the number of
digits. -/
def readFrom? : Nat → Nat → Nat → Nat → Text → Text → Option Text
  | fuel, bias, point, last, label, rest =>
    if rest.isEmpty then some label
    else match fuel with
      | 0 => none
      | fuel + 1 => do
        let (delta, rest) ← readDelta? bias 36 1 0 rest
        let length := label.length + 1
        let point := point + (last + delta) / length
        let place := (last + delta) % length
        if h : point.isValidChar then
          readFrom? fuel (adapt delta length (last == 0)) point (place + 1)
            (label.insertIdx place (Char.ofNatAux point h)) rest
        else none

/-- The most characters that a label in ASCII may have behind its mark. -/
def maxAsciiLength : Nat := 2000

/-- The label that ASCII characters behind the mark stand for. It has a character beyond ASCII. -/
def decode? (t : Text) : Option Text :=
  if t.isEmpty || t.getLast? == some '-' || maxAsciiLength < t.length then none
  else match t.cutLast? "-" with
    | some (c :: basic, digits) => readFrom? digits.length 72 0x80 0 (c :: basic) digits
    | _ => readFrom? t.length 72 0x80 0 [] t

end Classwright.Label
