import Classwright.Url.Basic
import Classwright.Url.Domain
/-!
# Hosts of URLs

The host of a special scheme is a domain in its ASCII form, an IPv4 address in dotted decimals, or
an IPv6 address in brackets. A host of any other scheme is kept as it is, save for escapes.
-/
namespace Classwright.Host

def forbidden : List Char :=
  ['\x00', '\t', '\n', '\r', ' ', '#', '/', ':', '<', '>', '?', '@', '[', '\\', ']', '^', '|']

/-- The character cannot stand in a domain. -/
def isForbiddenInDomain (c : Char) : Bool :=
  c.toNat < 0x20 || ("%\x60\x7b\x7d\x7f" : Text).contains c || forbidden.contains c

/-! ## Addresses of four numbers -/

/-- A number of an address: decimal, or octal or hexadecimal with its mark. -/
def ipv4Number? (t : Text) : Option Nat :=
  match t with
  | '0' :: 'x' :: digits | '0' :: 'X' :: digits =>
    (digits.mapM hexValue?).map fun ds => ds.foldl (· * 16 + ·) 0
  | '0' :: d :: digits =>
    if (d :: digits).all fun c => '0' ≤ c && c ≤ '7' then
      some ((d :: digits).foldl (fun n c => n * 8 + digitValue c) 0)
    else none
  | _ => if t.isEmpty || !t.all Char.isDigit then none else some (valueOfDigits t)

/-- The parts of an address, without an empty one at the end. -/
def ipv4Parts (t : Text) : List Text :=
  let parts := t.splitOn '.'
  if 1 < parts.length && parts.getLast? == some [] then parts.dropLast else parts

/-- The domain ends in a number, so it has to be an address. -/
def endsInNumber (t : Text) : Bool :=
  match (ipv4Parts t).getLast? with
  | none => false
  | some last => (!last.isEmpty && last.all Char.isDigit) || (ipv4Number? last).isSome

/-- The value of an address: the last number fills the bytes that are left. -/
def ipv4Value? (t : Text) : Option Nat := do
  let parts := ipv4Parts t
  if 4 < parts.length then none
  let numbers ← parts.mapM ipv4Number?
  let last ← numbers.getLast?
  let front := numbers.dropLast
  if front.any (255 < ·) || twoTo (8 * (4 - front.length)) ≤ last then none
  return front.foldl (fun n d => n * 256 + d) 0 * twoTo (8 * (4 - front.length)) + last

/-- An address in dotted decimals. -/
def ipv4Text (n : Nat) : Text :=
  natText (n / twoTo 24) ++ "." ++ natText (n / twoTo 16 % 256) ++ "." ++
    natText (n / twoTo 8 % 256) ++ "." ++ natText (n % 256)

/-! ## Addresses of eight numbers -/

/-- A group of one to four hexadecimal digits. -/
def ipv6Group? (t : Text) : Option Nat :=
  if t.isEmpty || 4 < t.length then none
  else (t.mapM hexValue?).map fun ds => ds.foldl (· * 16 + ·) 0

/-- A decimal of an embedded IPv4 address: no leading zero, at most 255. -/
def strictByte? (t : Text) : Option Nat :=
  if t.isEmpty || !t.all Char.isDigit || (1 < t.length && t.head? == some '0') then none
  else if valueOfDigits t < 256 then some (valueOfDigits t) else none

/-- Two groups from an embedded IPv4 address. -/
def embedded? (t : Text) : Option (List Nat) := do
  match ← (t.splitOn '.').mapM strictByte? with
  | [a, b, c, d] => return [a * 256 + b, c * 256 + d]
  | _ => none

/-- Groups between colons; the last one may be an embedded IPv4 address. -/
def ipv6Groups? : List Text → Option (List Nat)
  | [] => some []
  | [last] => if last.contains '.' then embedded? last else (ipv6Group? last).map ([·])
  | g :: rest => do return (← ipv6Group? g) :: (← ipv6Groups? rest)

/-- Groups of one side of the double colon, which may be empty. -/
def ipv6Side? (t : Text) : Option (List Nat) :=
  if t.isEmpty then some [] else ipv6Groups? (t.splitOn ':')

/-- The eight groups of an address. -/
def ipv6Value? (t : Text) : Option (List Nat) :=
  match t.cut? "::" with
  | some (before, after) => do
    if before.contains '.' then none
    let front ← ipv6Side? before
    let back ← ipv6Side? after
    if 7 < front.length + back.length then none
    return front ++ List.replicate (8 - front.length - back.length) 0 ++ back
  | none => do
    let groups ← ipv6Groups? (t.splitOn ':')
    if groups.length = 8 then return groups else none

/-- Lower-case hexadecimal digits without leading zeros. -/
def hexText (n : Nat) : Text :=
  let digits := [n / 4096 % 16, n / 256 % 16, n / 16 % 16, n % 16].dropWhile (· = 0)
  if digits.isEmpty then "0" else digits.map hexDigit

def zeroRun (groups : List Nat) : Nat := (groups.takeWhile (· = 0)).length

/-- Start and length of the first longest run of zeros. -/
def longestRun (start : Nat) : List Nat → Nat × Nat
  | [] => (0, 0)
  | g :: rest =>
    let here := zeroRun (g :: rest)
    let later := longestRun (start + 1) rest
    if here = 0 ∨ here < later.2 then later else (start, here)

/-- An address as text: the first longest run of at least two zeros is left out. -/
def ipv6Text (groups : List Nat) : Text :=
  let (start, length) := longestRun 0 groups
  let texts (gs : List Nat) := Text.joinWith ":" (gs.map hexText)
  if length < 2 then texts groups
  else texts (groups.take start) ++ "::" ++ texts (groups.drop (start + length))

/-! ## Reading a host -/

def bracketed? (t : Text) : Option Text := do
  let inner ← t.stripEnd? "]"
  return '[' :: ipv6Text (← ipv6Value? inner) ++ "]"

def special? (t : Text) : Option Text :=
  match t with
  | '[' :: rest => bracketed? rest
  | _ => do
    let domain ← Domain.ascii? (← Text.ofUtf8? (Percent.decode t))
    if domain.isEmpty || domain.any isForbiddenInDomain then none
    if endsInNumber domain then return ipv4Text (← ipv4Value? domain)
    return domain

/-- The host of another scheme. -/
def plain? (t : Text) : Option Text :=
  match t with
  | '[' :: rest => bracketed? rest
  | _ => if t.any forbidden.contains then none else some (Percent.encode [] t)

end Classwright.Host
