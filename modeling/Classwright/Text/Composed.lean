import Classwright.Text.Decomposition
import Classwright.Text.MarkClass
/-!
# The composed form of a text

Texts that look the same can be written in several ways: an accented letter is one character, or a
letter and a mark. The composed form is one of them. Characters are taken apart, marks are put into
the order of their classes, and what can be composed is composed again.
-/
namespace Classwright

/-! ## Syllables of Hangul -/

namespace Hangul

/-- The first syllable, and the first of each kind of parts; the last part may be missing. -/
def syllable : Nat := 0xAC00
def lead : Nat := 0x1100
def vowel : Nat := 0x1161
def tail : Nat := 0x11A7

def leads : Nat := 19
def vowels : Nat := 21
def tails : Nat := 28

/-- The parts of a syllable. -/
def parts? (c : Char) : Option Text :=
  let n := c.toNat - syllable
  if c.toNat < syllable ∨ leads * vowels * tails ≤ n then none
  else
    let front := [lead + n / (vowels * tails), vowel + n / tails % vowels]
    let back := if n % tails = 0 then [] else [tail + n % tails]
    some ((front ++ back).map Char.ofNat)

/-- The syllable of a lead and a vowel, or of a syllable and the tail that it lacks. -/
def compose? (a b : Char) : Option Char :=
  let l := a.toNat - lead
  let v := b.toNat - vowel
  let s := a.toNat - syllable
  let t := b.toNat - tail
  if lead ≤ a.toNat ∧ l < leads ∧ vowel ≤ b.toNat ∧ v < vowels then
    some (Char.ofNat (syllable + (l * vowels + v) * tails))
  else if syllable ≤ a.toNat ∧ s < leads * vowels * tails ∧ s % tails = 0 ∧
      tail < b.toNat ∧ t < tails then
    some (Char.ofNat (a.toNat + t))
  else none

end Hangul

/-! ## Taking apart -/

/-- The characters that a character is made of; `fuel` bounds how often it can be taken apart. -/
def decomposeChar : Nat → Char → Text
  | 0, c => [c]
  | fuel + 1, c =>
    if c.toNat < 0x80 then [c]
    else match Hangul.parts? c with
      | some parts => parts
      | none => match splits.lookup c.toNat with
        | some ns => ns.map Char.ofNat
        | none => match compositions.lookup c.toNat with
          | some [a, b] => decomposeChar fuel (Char.ofNat a) ++ [Char.ofNat b]
          | _ => [c]

/-- Put a character in front of a text whose marks are in order: it passes marks of lower
classes. -/
def placeMark (c : Char) : Text → Text
  | [] => [c]
  | d :: rest =>
    if markClass d = 0 ∨ markClass c ≤ markClass d then c :: d :: rest
    else d :: placeMark c rest

/-- The text taken apart, with its marks in order. -/
def Text.decomposed (t : Text) : Text :=
  (t.flatMap (decomposeChar 5)).foldr
    (fun c rest => if markClass c = 0 then c :: rest else placeMark c rest) []

/-! ## Composing -/

def composePair? (a b : Char) : Option Char :=
  (Hangul.compose? a b).or
    ((compositions.find? (·.2 == [a.toNat, b.toNat])).map fun (c, _) => Char.ofNat c)

/-- Compose the rest of a text with the last character that can take marks. Between them are the
marks that it did not take, the last one first; a mark is reached when all of those have lower
classes. -/
def composeAfter : Option Char → Text → Text → Text
  | base, between, [] => base.toList ++ between.reverse
  | none, _, c :: rest =>
    if markClass c = 0 then composeAfter (some c) [] rest else c :: composeAfter none [] rest
  | some base, between, c :: rest =>
    let isReached := between.head?.all fun m => markClass m < markClass c
    match if isReached then composePair? base c else none with
    | some d => composeAfter (some d) between rest
    | none =>
      if markClass c = 0 then base :: between.reverse ++ composeAfter (some c) [] rest
      else composeAfter (some base) (c :: between) rest

def Text.composed (t : Text) : Text := composeAfter none [] t.decomposed

end Classwright
