import Classwright.Text.Basic
/-!
# Decimal digits

Natural numbers and integers written in decimal, and the two ways numbers are read: the value of a
run of digits, and a bounded number that may carry a plus sign.
-/
namespace Classwright

def twoTo (k : Nat) : Nat := Nat.pow 2 k

/-- What is left of a number in 32 bits. -/
def toWord (n : Nat) : Nat := n % twoTo 32

theorem toWord_of_lt {n : Nat} (h : n < twoTo 32) : toWord n = n := Nat.mod_eq_of_lt h

def tenTo (k : Nat) : Nat := Nat.pow 10 k

/-- The ASCII digit of a number below ten. -/
def digitChar (d : Nat) : Char := Char.ofNat (48 + d)

def digitValue (c : Char) : Nat := c.toNat - 48

/-- Decimal digits of `n` in front of `after`; `fuel` bounds the number of digits. -/
def digitsBefore : Nat → Nat → Text → Text
  | 0, _, after => after
  | fuel + 1, n, after =>
    if n < 10 then digitChar n :: after
    else digitsBefore fuel (n / 10) (digitChar (n % 10) :: after)

/-- A natural number in decimal. -/
def natText (n : Nat) : Text := digitsBefore (n + 1) n []

/-- An integer in decimal. -/
def intText : Int → Text
  | .ofNat n => natText n
  | .negSucc n => '-' :: natText (n + 1)

def valueOfDigits (t : Text) : Nat := t.foldl (fun n c => n * 10 + digitValue c) 0

/-- An unsigned number below `bound`: ASCII digits, at least one, with an optional plus sign. -/
def natBelow? (bound : Nat) (t : Text) : Option Nat :=
  let digits := (t.stripStart? ['+']).getD t
  if digits.isEmpty || !digits.all Char.isDigit then none
  else if valueOfDigits digits < bound then some (valueOfDigits digits) else none

def hexValue? (c : Char) : Option Nat :=
  if '0' ≤ c ∧ c ≤ '9' then some (c.toNat - 48)
  else if 'a' ≤ c ∧ c ≤ 'f' then some (c.toNat - 87)
  else if 'A' ≤ c ∧ c ≤ 'F' then some (c.toNat - 55)
  else none

/-- The lower-case hexadecimal digit of a number below sixteen. -/
def hexDigit (d : Nat) : Char := if d < 10 then Char.ofNat (48 + d) else Char.ofNat (87 + d)

/-- The upper-case hexadecimal digit of a number below sixteen. -/
def hexDigitUpper (d : Nat) : Char := if d < 10 then Char.ofNat (48 + d) else Char.ofNat (55 + d)

end Classwright
