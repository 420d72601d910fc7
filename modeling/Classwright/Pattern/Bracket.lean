import Classwright.Pattern.Escape
/-!
# Bracketed sets in patterns

A bracket lists characters, ranges, classes and further brackets. Two lists may be joined by
intersection, difference or symmetric difference; the operators have no precedence and group to the
left.
-/
namespace Classwright

inductive SetOperator where
  | inter
  | diff
  | symmDiff
deriving DecidableEq

/-- A bracket that is being read: what is listed since the last operator, the operator with what is
in front of it, and how deep brackets were nested in it. -/
structure OpenBracket where
  negated : Bool
  listed : CharSet
  pending : Option (SetOperator × CharSet)
  depth : Nat

namespace OpenBracket

/-- The set of both sides of an operator. -/
def join (f : PatternFlags) (op : SetOperator) (a b : CharSet) : CharSet :=
  let a := f.folded a
  let b := f.folded b
  match op with
  | .inter => .inter a b
  | .diff => .diff a b
  | .symmDiff => .symmDiff a b

/-- All that is read so far, as one side of an operator. -/
def sofar (f : PatternFlags) (b : OpenBracket) : CharSet :=
  match b.pending with
  | some (op, left) => join f op left b.listed
  | none => b.listed

def list (b : OpenBracket) (s : CharSet) : OpenBracket := { b with listed := .union b.listed s }

/-- An operator comes next. -/
def operator (f : PatternFlags) (b : OpenBracket) (op : SetOperator) : OpenBracket :=
  { b with pending := some (op, b.sofar f), listed := .empty }

def close? (f : PatternFlags) (b : OpenBracket) : Option CharSet := f.class? b.negated (b.sofar f)

/-- Hyphens at the start of a bracket stand for themselves. -/
def leadingHyphens (f : PatternFlags) : Nat → OpenBracket → Text → Option (OpenBracket × Text)
  | 0, b, t => some (b, t)
  | fuel + 1, b, t =>
    match t with
    | '-' :: _ => do leadingHyphens f fuel (b.list (.one '-')) (← f.bump? t)
    | _ => some (b, t)

/-- The start of a bracket, from its opening mark on. A closing mark that comes first stands for
itself. -/
def start? (f : PatternFlags) (t : Text) : Option (OpenBracket × Text) := do
  let t ← f.bump? t
  let negated := t.head? == some '^'
  let t ← if negated then f.bump? t else some t
  let fresh : OpenBracket := ⟨negated, .empty, none, 1⟩
  let (b, t) ← leadingHyphens f t.length fresh t
  match t with
  | ']' :: _ =>
    if b.listed = .empty then return (b.list (.one ']'), ← f.bump? t) else return (b, t)
  | _ => return (b, t)

/-- A named ASCII class, from its opening bracket on, and whether all that is not in it is meant. -/
def asciiClass? (t : Text) : Option (Bool × CharSet × Text) := do
  let t ← t.stripStart? "[:"
  let negated := t.head? == some '^'
  let t : Text := if negated then t.drop 1 else t
  let name : Text := t.takeWhile (· != ':')
  let rest ← Text.stripStart? (t.drop name.length) ":]"
  return (negated, ← CharSet.ascii? (String.ofList name), rest)

def item? (f : PatternFlags) : Text → Option (Escape × Text)
  | [] => none
  | '\\' :: rest => Escape.read? f rest
  | c :: rest => some (.char c, rest)

/-- The set of an item that is no end of a range. -/
def itemSet? (f : PatternFlags) : Escape → Option CharSet
  | .char c => f.admitted? (.one c)
  | .set s => some s
  | .anchor _ => none

/-- The first two characters that count in a text. -/
def nextTwo (f : PatternFlags) (t : Text) : Option Char × Option Char :=
  (t.head?, (f.skip (t.drop 1)).head?)

/-- An item, or a range between two characters. -/
def range? (f : PatternFlags) (t : Text) : Option (CharSet × Text) := do
  let (first, rest) ← item? f t
  let rest := f.skip rest
  if rest.isEmpty then none
  match nextTwo f rest with
  | (some '-', some ']') | (some '-', some '-') => return (← itemSet? f first, rest)
  | (some '-', _) =>
    let (last, rest) ← item? f (← f.bump? rest)
    match first, last with
    | .char a, .char b =>
      if a ≤ b then return (← f.admitted? (.range a b), rest) else none
    | _, _ => none
  | _ => return (← itemSet? f first, rest)

/-- Read on in a bracket, inside of the brackets `outer`: its set, how deep brackets are nested in
it, and the text behind it. -/
def readFrom (f : PatternFlags) :
    Nat → List OpenBracket → OpenBracket → Text → Option (CharSet × Nat × Text)
  | 0, _, _, _ => none
  | fuel + 1, outer, b, t =>
    match f.skip t with
    | [] => none
    | '[' :: rest =>
      match asciiClass? ('[' :: rest) with
      | some (negated, s, rest) => do
        readFrom f fuel outer (b.list (← f.class? negated s)) rest
      | none => do
        let (inner, rest) ← start? f ('[' :: rest)
        readFrom f fuel (b :: outer) inner rest
    | ']' :: rest =>
      match outer with
      | [] => do return (← b.close? f, b.depth, rest)
      | o :: outer => do
        let o := o.list (← b.close? f)
        readFrom f fuel outer { o with depth := max o.depth (b.depth + 1) } rest
    | '&' :: '&' :: rest => readFrom f fuel outer (b.operator f .inter) rest
    | '-' :: '-' :: rest => readFrom f fuel outer (b.operator f .diff) rest
    | '~' :: '~' :: rest => readFrom f fuel outer (b.operator f .symmDiff) rest
    | t => do
      let (s, rest) ← range? f t
      readFrom f fuel outer (b.list s) rest

def read? (f : PatternFlags) (t : Text) : Option (CharSet × Nat × Text) := do
  let (b, rest) ← start? f t
  readFrom f t.length [] b rest

end OpenBracket
end Classwright
