import Classwright.Number.Digits
/-!
# Double-precision numbers

A finite double is a sign, a whole mantissa below `2 ^ 53` and a power of two. Results are rounded
to the nearest double, a tie going to the even mantissa, in exact arithmetic on natural numbers. A
double is written with the fewest digits that read back as the same double.
-/
namespace Classwright

/-- The finite double `± mantissa · 2 ^ exponent`. -/
structure Double where
  negative : Bool
  mantissa : Nat
  exponent : Int
deriving DecidableEq

namespace Double

/-- The whole number nearest to `num / den`, a tie going to the even one. -/
def nearest (num den : Nat) : Nat :=
  let q := num / den
  let r := 2 * (num % den)
  if r < den then q else if den < r then q + 1 else q + q % 2

/-- Numerator of `num / (den · 2 ^ e)`. -/
def scaledNum (num : Nat) (e : Int) : Nat := num * twoTo (-e).toNat

/-- Denominator of `num / (den · 2 ^ e)`. -/
def scaledDen (den : Nat) (e : Int) : Nat := den * twoTo e.toNat

/-- Mantissa and exponent of the double nearest to `num / den`; none when it is too large. -/
def magnitude? (num den : Nat) : Option (Nat × Int) :=
  if num = 0 then some (0, -1074)
  else
    let guess : Int := (num.log2 : Int) - den.log2 - 53
    let e := if scaledNum num guess / scaledDen den guess < twoTo 53 then guess else guess + 1
    let e := max e (-1074)
    let m := nearest (scaledNum num e) (scaledDen den e)
    let (m, e) := if m = twoTo 53 then (twoTo 52, e + 1) else (m, e)
    if 971 < e then none else some (m, e)

/-- The double nearest to `± num / den`. -/
def ofRatio? (negative : Bool) (num den : Nat) : Option Double :=
  (magnitude? num den).map fun (m, e) => ⟨negative, m, e⟩

/-- Numerator of the size of the double. -/
def num (d : Double) : Nat := d.mantissa * twoTo d.exponent.toNat

/-- Denominator of the size of the double. -/
def den (d : Double) : Nat := twoTo (-d.exponent).toNat

/-- The double nearest to `10 ^ k`, for an exponent that stays in range. -/
def powerOfTen (k : Nat) : Double := (ofRatio? false (tenTo k) 1).getD ⟨false, 0, -1074⟩

/-- The rounded product, with the sign of the first factor. -/
def mul? (a b : Double) : Option Double := ofRatio? a.negative (a.num * b.num) (a.den * b.den)

/-- The rounded quotient, with the sign of the first number. -/
def div? (a b : Double) : Option Double := ofRatio? a.negative (a.num * b.den) (a.den * b.num)

/-! ## Writing -/

/-- `a / b ≤ c / d`, or `<` when the bound itself does not count. -/
def ratioLe (strict : Bool) (a b c d : Nat) : Bool :=
  if strict then decide (a * d < c * b) else decide (a * d ≤ c * b)

/-- The whole number `n` times `10 ^ k` reads back as the double with this mantissa and exponent:
it lies between the midpoints to the two neighbours. Works in quarters of the last place, since the
lower neighbour of a power of two is nearer. -/
def readsBack (m : Nat) (e : Int) (n : Nat) (k : Int) : Bool :=
  let a := n * tenTo k.toNat * 4
  let b := tenTo (-k).toNat
  let below := if m = twoTo 52 ∧ -1074 < e then 1 else 2
  let strict := m % 2 == 1
  let low := (4 * m - below) * twoTo e.toNat
  let high := (4 * m + 2) * twoTo e.toNat
  let unit := twoTo (-e).toNat
  ratioLe strict low unit a b && ratioLe strict a b high unit

/-- The digits without trailing zeros, and the power of ten they are multiplied with. -/
def stripZeros : Nat → Nat → Int → Nat × Int
  | 0, n, k => (n, k)
  | fuel + 1, n, k => if n % 10 = 0 then stripZeros fuel (n / 10) (k + 1) else (n, k)

/-- Largest `k` with `10 ^ k ≤ num / den`, from a guess that is at least as large; `fuel` bounds
the steps down. -/
def decimalExponent (num den : Nat) : Nat → Int → Int
  | 0, k => k
  | fuel + 1, k =>
    if tenTo k.toNat * den ≤ num * tenTo (-k).toNat then k
    else decimalExponent num den fuel (k - 1)

/-- The first grid of decimals with `places` digits or more that holds a number reading back, of two
such neighbours the nearer. -/
def shortestFrom (m : Nat) (e : Int) (num den : Nat) (top : Int) : Nat → Nat → Nat × Int
  | 0, places =>
    let k := top - places + 1
    (nearest (num * tenTo (-k).toNat) (den * tenTo k.toNat), k)
  | fuel + 1, places =>
    let k := top - places + 1
    let a := num * tenTo (-k).toNat
    let b := den * tenTo k.toNat
    let lower := a / b
    let near := nearest a b
    let far := if near = lower then lower + 1 else lower
    if readsBack m e near k then (near, k)
    else if readsBack m e far k then (far, k)
    else shortestFrom m e num den top fuel (places + 1)

/-- Fewest digits that read back, as a whole number and a power of ten. -/
def shortest (d : Double) : Nat × Int :=
  let top := decimalExponent d.num d.den 700 310
  let (n, k) := shortestFrom d.mantissa d.exponent d.num d.den top 17 1
  stripZeros 20 n k

/-- Text of a double: positional from `1e-5` below `1e16`, with a point always, and otherwise one
digit before the point and a signed exponent. -/
def text (d : Double) : Text :=
  let sign : Text := if d.negative then "-" else ""
  if d.mantissa = 0 then sign ++ "0.0"
  else
    let (n, k) := d.shortest
    let digits := natText n
    let point : Int := digits.length + k
    if 0 ≤ k ∧ point ≤ 16 then sign ++ digits ++ List.replicate k.toNat '0' ++ ".0"
    else if 0 < point ∧ point ≤ 16 then
      sign ++ digits.take point.toNat ++ "." ++ digits.drop point.toNat
    else if -5 < point ∧ point ≤ 0 then
      sign ++ "0." ++ List.replicate (-point).toNat '0' ++ digits
    else
      let fraction : Text := if digits.length ≤ 1 then [] else '.' :: digits.drop 1
      let mark : Text := if 0 ≤ point - 1 then "+" else ""
      sign ++ digits.take 1 ++ fraction ++ "e" ++ mark ++ intText (point - 1)

end Double
end Classwright
