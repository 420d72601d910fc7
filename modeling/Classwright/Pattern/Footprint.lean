import Classwright.Pattern.Basic
import Classwright.Pattern.CharSet
import Classwright.Text.Utf8
import Std.Data.HashMap
/-!
# How large a pattern is

A pattern that would grow too large is refused. What is measured are the states of two automata that
work on bytes, one for texts from their start, which remembers groups, and one for texts from their
end. Each state takes a fixed number of bytes, with more for the states that it leads to when it
leads to several. The numbers of states matter too, because a set of characters shares states that
are equal: they are looked up in a table with a fixed number of places, where the later of two with
one place replaces the earlier.
-/
namespace Classwright

/-! ## Sets of characters as rows of bytes

The bytes of the characters in a set are told by rows of byte ranges: a character belongs to the set
when its bytes lie in the ranges of one row, one by one. The ranges of a set are cut where the
number of bytes changes, and then into whole blocks of characters whose last bytes take all values,
with what is left over in front of the blocks and behind them. -/

/-- The bytes from the first to the last one. -/
structure ByteRange where
  first : UInt8
  last : UInt8
deriving DecidableEq

abbrev ByteRow := List ByteRange

namespace ByteRow

/-- A range cut at bounds, which are in order. -/
def cutAt : List Nat → Nat × Nat → List (Nat × Nat)
  | [], r => [r]
  | b :: bounds, (first, last) =>
    if first < b ∧ b ≤ last then (first, b - 1) :: cutAt bounds (b, last)
    else cutAt bounds (first, last)

/-- A range cut into blocks of a size, and those into larger blocks, for so many sizes. -/
def cutBlocks : Nat → Nat → Nat × Nat → List (Nat × Nat)
  | 0, _, r => [r]
  | sizes + 1, size, (first, last) =>
    if first / size = last / size then [(first, last)]
    else
      let start := (first + size - 1) / size * size
      let stop := (last + 1) / size * size
      let inner := if start < stop then cutBlocks sizes (size * 64) (start, stop - 1) else []
      (if first < start then [(first, start - 1)] else []) ++ inner ++
        (if stop ≤ last then [(stop, last)] else [])

/-- A range of code points cut so that each piece is one row. ASCII characters are single bytes. -/
def cut (codes : Nat × Nat) : List (Nat × Nat) :=
  if codes.2 < 0x80 then [codes] else cutBlocks 3 64 codes

/-- The row of a range that needs no more cuts. -/
def ofCodes (codes : Nat × Nat) : ByteRow :=
  ((utf8OfChar (Char.ofNat codes.1)).zip (utf8OfChar (Char.ofNat codes.2))).map
    fun (first, last) => ⟨first, last⟩

/-- Where the number of bytes changes, and where code points of surrogates are left out. -/
def bounds : List Nat := [0x80, 0x800, 0xD800, 0xF800]

end ByteRow

def CharSet.byteRows (s : CharSet) : List ByteRow :=
  (s.ranges.flatMap (ByteRow.cutAt ByteRow.bounds)).flatMap fun (first, last) =>
    (ByteRow.cut (codeOfRank first, codeOfRank last)).map ByteRow.ofCodes

/-! ## Counting states -/

/-- The states of an automaton, and the bytes they take. -/
structure Footprint where
  states : Nat := 0
  bytes : Nat := 0

namespace Footprint

/-- The most bytes that an automaton may take. -/
def maxBytes : Nat := 10485760

/-- The automaton takes too many bytes. -/
def isTooLarge (f : Footprint) : Bool := maxBytes < f.bytes

def grow (f : Footprint) (states : Nat) : Footprint :=
  { states := f.states + states, bytes := f.bytes + 32 * states }

/-- A fork leads to more states. -/
def links (f : Footprint) (n : Nat) : Footprint := { f with bytes := f.bytes + 4 * n }

/-- A state that eats has more ranges of bytes, each with the state that follows. -/
def arrows (f : Footprint) (n : Nat) : Footprint := { f with bytes := f.bytes + 8 * n }

/-- What follows a part is linked to it, if the part ends in a fork. -/
def join (f : Footprint) (endsInFork : Bool) : Footprint := if endsInFork then f.links 1 else f

/-! ## Sets of characters -/

/-- One more number in a hash value. -/
def mix (h : UInt64) (n : Nat) : UInt64 := (h ^^^ n.toUInt64) * 1099511628211

def placeIn (places : Nat) (numbers : List Nat) : Nat :=
  (numbers.foldl mix 14695981039346656037).toNat % places

/-- A range of bytes, with the state that follows. -/
structure Arrow where
  range : ByteRange
  next : Nat
deriving DecidableEq

/-- A state of a set that may still get more arrows. The last one of them does not lead to a
finished state yet. -/
structure OpenState where
  /-- The last arrow first. -/
  arrows : List Arrow
  last : Option ByteRange

/-- The last arrow of an open state leads to a finished one. -/
def OpenState.finish (s : OpenState) (next : Nat) : OpenState :=
  { arrows := (s.last.map (⟨·, next⟩)).toList ++ s.arrows, last := none }

structure SetStates where
  footprint : Footprint
  /-- Finished states with their numbers, by their places in the table. -/
  known : Std.HashMap Nat (List Arrow × Nat)
  /-- The open states, the innermost one first. -/
  opened : List OpenState

namespace SetStates

/-- The number of a finished state, which is added unless it is known. -/
def finished (footprint : Footprint) (known : Std.HashMap Nat (List Arrow × Nat))
    (arrows : List Arrow) : Nat × Footprint × Std.HashMap Nat (List Arrow × Nat) :=
  let place := placeIn 10000 <|
    arrows.flatMap fun a => [a.range.first.toNat, a.range.last.toNat, a.next]
  match (known[place]?).bind fun (other, n) => if other = arrows then some n else none with
  | some n => (n, footprint, known)
  | none =>
    (footprint.states, (footprint.grow 1).arrows arrows.length,
      known.insert place (arrows, footprint.states))

/-- Finish the open states inside of so many outer ones, and the last arrow of the innermost one
that stays open. -/
def finishInside (outer next : Nat) (footprint : Footprint)
    (known : Std.HashMap Nat (List Arrow × Nat)) : List OpenState → SetStates
  | [] => ⟨footprint, known, []⟩
  | s :: rest =>
    if outer < rest.length then
      let (n, footprint, known) := finished footprint known (s.finish next).arrows.reverse
      finishInside outer n footprint known rest
    else ⟨footprint, known, s.finish next :: rest⟩

/-- How many ranges of a row are the last ones of open states, which are given from outside in. -/
def shared : ByteRow → List OpenState → Nat
  | r :: row, s :: rest => if s.last = some r then shared row rest + 1 else 0
  | _, _ => 0

/-- One more row. What it shares with the row before stays open. The states lead to `target`. -/
def addRow (target : Nat) (s : SetStates) (row : ByteRow) : SetStates :=
  let outer := shared row s.opened.reverse
  let s := finishInside outer target s.footprint s.known s.opened
  match row.drop outer, s.opened with
  | r :: row, innermost :: rest =>
    let inner := row.map fun r => (⟨[], some r⟩ : OpenState)
    { s with opened := inner.reverse ++ { innermost with last := some r } :: rest }
  | _, _ => s

end SetStates

/-- A set of characters, from the first byte to the last one. -/
def forwardSet (f : Footprint) (rows : List ByteRow) : Footprint :=
  let target := f.states
  let s := rows.foldl (SetStates.addRow target) ⟨f.grow 1, {}, [⟨[], none⟩]⟩
  let s := SetStates.finishInside 0 target s.footprint s.known s.opened
  match s.opened with
  | root :: _ => (SetStates.finished s.footprint s.known root.arrows.reverse).2.1
  | [] => s.footprint

/-- States that eat one byte and go on, with their numbers, by their places in the table. -/
abbrev ByteSteps := Std.HashMap Nat ((Nat × ByteRange) × Nat)

/-- One byte more in front of a state: the state with the byte, which is added unless known. -/
def byteStep (f : Footprint) (steps : ByteSteps) (next : Nat) (r : ByteRange) :
    Nat × Footprint × ByteSteps :=
  let place := placeIn 1000 [next, r.first.toNat, r.last.toNat]
  match (steps[place]?).bind fun (other, n) => if other = (next, r) then some n else none with
  | some n => (n, f, steps)
  | none => (f.states, f.grow 1, steps.insert place ((next, r), f.states))

/-- A set of characters, from the last byte to the first one. Each row is linked to one fork. -/
def backwardSet (f : Footprint) (rows : List ByteRow) : Footprint :=
  let target := f.states + 1
  let addRow (acc : Footprint × ByteSteps) (row : ByteRow) : Footprint × ByteSteps :=
    let (_, f, steps) := row.foldl (fun (n, f, steps) r => byteStep f steps n r) (target, acc)
    (f.links 1, steps)
  (rows.foldl addRow (f.grow 2, {})).1

/-- A set of characters. Ranges of ASCII characters make a single state. -/
def ofSet (backward : Bool) (s : CharSet) (f : Footprint) : Footprint :=
  if s.isAscii then (f.grow 2).arrows s.ranges.length
  else if backward then f.backwardSet s.byteRows
  else f.forwardSet s.byteRows

/-! ## Texts to choose from -/

/-- Texts in order, in runs between the empty ones. -/
def runs : List (List UInt8) → List (List (List UInt8))
  | [] => [[]]
  | [] :: rest => [] :: runs rest
  | t :: rest =>
    match runs rest with
    | run :: others => (t :: run) :: others
    | [] => [[t]]

/-- Texts without the empty ones at the start but one. -/
def oneEmpty (texts : List (List UInt8)) : List (List UInt8) :=
  if texts.head?.any List.isEmpty then [] :: texts.dropWhile List.isEmpty else texts

/-- The tree of the texts behind a byte. Texts with the same first byte share it unless one that is
empty comes between them. A tree without bytes takes no states. -/
def texts : Nat → List (List UInt8) → Footprint → Footprint
  | 0, _, f => f
  | fuel + 1, ts, f =>
    if ts.all List.isEmpty then f
    else
      let runs := runs (oneEmpty ts)
      let run (f : Footprint) (ts : List (List UInt8)) : Footprint :=
        let heads := (ts.filterMap List.head?).eraseDups
        let f := heads.foldl (fun f b =>
          texts fuel (ts.filterMap fun t => if t.head? = some b then some (t.drop 1) else none) f) f
        (f.grow 1).arrows (if heads.length = 1 then 0 else heads.length)
      let full := runs.filter (!·.isEmpty)
      ((full.foldl run f).grow 1).links (full.length + (runs.length - 1))

/-- Texts to choose from. -/
def ofTexts (backward : Bool) (ts : List Text) (f : Footprint) : Footprint :=
  let ts := ts.map fun t => if backward then t.utf8.reverse else t.utf8
  texts ((ts.map List.length).foldl max 0 + 1) ts (f.grow 1)

/-! ## Repetitions -/

/-- What a part adds, and whether it ends in a fork. -/
abbrev Part := Footprint → Footprint × Bool

def behind (one : Part) (f : Footprint × Bool) : Footprint × Bool :=
  let (g, endsInFork) := one f.1
  (g.join f.2, endsInFork)

/-- Turns in a row. -/
def turns (one : Part) : Nat → Footprint × Bool → Footprint × Bool
  | 0, f => f
  | n + 1, f => if f.1.isTooLarge then f else turns one n (behind one f)

/-- A number of turns, which may be none. -/
def exactly (one : Part) (n : Nat) (f : Footprint) : Footprint × Bool :=
  if n = 0 then (f.grow 1, false) else turns one n (f, false)

/-- Turns that may be left out, each with all after it. -/
def optionalTurns (one : Part) : Nat → Footprint × Bool → Footprint × Bool
  | 0, f => f
  | n + 1, f =>
    if f.1.isTooLarge then f
    else
      let (g, endsInFork) := behind one (f.1.grow 1, f.2)
      optionalTurns one n (g.links 2, endsInFork)

/-- Turns without an end. -/
def endlessTurns (one : Part) (eats : Bool) (least : Nat) (f : Footprint) : Footprint × Bool :=
  if least = 0 then
    let (g, endsInFork) := one (if eats then f.grow 1 else f)
    if eats then ((g.join endsInFork).links 1, true)
    else (((g.join endsInFork).grow 3).links 4, false)
  else
    let front := if least = 1 then (f, false) else exactly one (least - 1) f
    let (g, endsInFork) := behind one front
    (((g.join endsInFork).grow 1).links 1, true)

def repetition (one : Part) (eats : Bool) (least : Nat) (most : Option Nat) (f : Footprint) :
    Footprint × Bool :=
  match most with
  | none => endlessTurns one eats least f
  | some most =>
    if least = 0 ∧ most = 1 then
      let (g, endsInFork) := one (f.grow 1)
      (((g.join endsInFork).grow 1).links 2, false)
    else if most ≤ least then exactly one least f
    else
      let (f, endsInFork) := exactly one least f
      let (f, endsInFork) := optionalTurns one (most - least) (f.grow 1, endsInFork)
      (f.join endsInFork, false)

/-! ## Patterns -/

def texts? (ps : List Pattern) : Option (List Text) :=
  ps.mapM fun
    | .literal t => some t
    | _ => none

mutual

def pattern (backward : Bool) : Pattern → Part
  | .empty, f => (f.grow 1, false)
  | .literal t, f => (f.grow t.bytes, false)
  | .set s, f => (f.ofSet backward s, false)
  | .anchor _ _, f => (f.grow 1, false)
  | .group _ p, f =>
    if backward then pattern backward p f
    else
      let (g, endsInFork) := pattern backward p (f.grow 1)
      ((g.join endsInFork).grow 1, false)
  | .rep p least most _, f => repetition (pattern backward p) p.eats least most f
  | .row ps, f => row backward ps (f, false)
  | .choice ps, f =>
    match texts? ps with
    | some ts => (f.ofTexts backward ts, false)
    | none => (choice backward 0 ps f, false)

/-- Patterns in a row, from the end that the automaton starts with. -/
def row (backward : Bool) : List Pattern → Footprint × Bool → Footprint × Bool
  | [], f => f
  | p :: ps, f =>
    if backward then behind (pattern backward p) (row backward ps f)
    else row backward ps (behind (pattern backward p) f)

/-- Branches behind so many others. The fork comes behind the second one. -/
def choice (backward : Bool) : Nat → List Pattern → Footprint → Footprint
  | _, [], f => f
  | n, p :: ps, f =>
    let (g, endsInFork) := pattern backward p f
    let g := (g.join endsInFork).links 1
    choice backward (n + 1) ps (if n = 1 then g.grow 2 else g)

end

/-- The automaton of a pattern. It has a loop in front that eats any byte, unless matches are bound
to the end of the text where it starts. -/
def ofPattern (backward : Bool) (p : Pattern) : Footprint :=
  let anchored := p.demands (if backward then .textEnd else .textStart) backward
  let f : Footprint := {}
  let f := if anchored then f.grow 1 else (f.grow 3).arrows 1
  let (f, endsInFork) := pattern backward p (if backward then f else f.grow 1)
  let f := (f.join endsInFork).grow (if backward then 1 else 2)
  if anchored then f else f.links 2

/-- Both automata of a pattern are small enough. -/
def admits (p : Pattern) : Bool :=
  !(ofPattern false p).isTooLarge && !(ofPattern true p).isTooLarge

end Footprint
end Classwright
