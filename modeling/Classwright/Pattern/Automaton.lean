import Classwright.Pattern.Basic
/-!
# Automata of patterns

A pattern is carried out by an automaton. A state eats a character, checks the place, marks it, or
forks into two states, of which the first one is preferred. States are known by their numbers. The
automaton is built from the end of the pattern to its start: what a part leads to is there before
the part itself. The loop of a repetition is the exception; its fork is kept free and filled in once
the turn that leads back to it is there.
-/
namespace Classwright

inductive State where
  /-- Eat a character of a set. -/
  | eat (set : CharSet) (next : Nat)
  /-- Go on if the place has a property. -/
  | check (a : Anchor) (asciiWords : Bool) (next : Nat)
  /-- Mark the place. -/
  | mark (slot next : Nat)
  /-- Go on in two ways, the first one preferred. -/
  | fork (first second : Nat)
  /-- All is matched. -/
  | done
deriving Inhabited

/-- A step of building: it adds states, and gives the state from which to go. -/
abbrev Building := StateM (Array State) Nat

namespace Building

def add (s : State) : Building := modifyGet fun states => (states.size, states.push s)

/-- A fork into a part and what is behind it, in the order of preference. -/
def preferring (greedy : Bool) (turn next : Nat) : State :=
  if greedy then .fork turn next else .fork next turn

/-- A text in front of a state. -/
def text (t : Text) (next : Nat) : Building :=
  t.reverse.foldlM (fun next c => add (.eat (.one c) next)) next

/-- Turns in a row in front of a state. -/
def turns (one : Nat → Building) : Nat → Nat → Building
  | 0, next => pure next
  | n + 1, next => do turns one n (← one next)

/-- Turns that may be left out, each with all after it. They are built from the last one on, in
front of the turns that begin at `start`. -/
def optionalTurns (one : Nat → Building) (greedy : Bool) (next : Nat) : Nat → Nat → Building
  | 0, start => pure start
  | n + 1, start => do
    optionalTurns one greedy next n (← add (preferring greedy (← one start) next))

/-- At least one turn, without an end. Gives the start of a turn and the fork behind it. -/
def endlessTurns (one : Nat → Building) (greedy : Bool) (next : Nat) :
    StateM (Array State) (Nat × Nat) := do
  let fork ← add .done
  let start ← one fork
  modify (·.setIfInBounds fork (preferring greedy start next))
  return (start, fork)

/-- Turns in front of a state. Turns that eat can start at the fork behind a turn. Others cannot:
there the fork would be passed again at the same place. -/
def repetition (one : Nat → Building) (eats : Bool) (least : Nat) (most : Option Nat)
    (greedy : Bool) (next : Nat) : Building := do
  match most with
  | some most => turns one least (← optionalTurns one greedy next (most - least) next)
  | none =>
    let (start, fork) ← endlessTurns one greedy next
    if least ≠ 0 then turns one (least - 1) start
    else if eats then return fork
    else add (preferring greedy start next)

mutual

/-- A pattern in front of a state. -/
def pattern : Pattern → Nat → Building
  | .empty, next => pure next
  | .literal t, next => text t next
  | .set s, next => add (.eat s next)
  | .anchor a asciiWords, next => add (.check a asciiWords next)
  | .group n p, next => do
    let last ← add (.mark (2 * n + 1) next)
    add (.mark (2 * n) (← pattern p last))
  | .rep p least most greedy, next => repetition (pattern p) p.eats least most greedy next
  | .row ps, next => row ps next
  | .choice ps, next => choice ps next

/-- Patterns in a row in front of a state. -/
def row : List Pattern → Nat → Building
  | [], next => pure next
  | p :: ps, next => do pattern p (← row ps next)

/-- Branches in front of a state. -/
def choice : List Pattern → Nat → Building
  | [], next => add (.eat .empty next)
  | [p], next => pattern p next
  | p :: ps, next => do
    let first ← pattern p next
    add (.fork first (← choice ps next))

end

end Building

structure Automaton where
  states : Array State
  start : Nat
  /-- A match starts at the start of the text. -/
  anchored : Bool
  /-- A condition depends on words that are not made of ASCII alone. -/
  needsWords : Bool
  /-- Some state marks a place. -/
  marks : Bool

namespace Automaton

/-- The automaton of a pattern. Its first state is the one that is done. -/
def ofPattern (p : Pattern) : Automaton :=
  let (start, states) := (Building.pattern p 0).run #[.done]
  let needsWords : State → Bool
    | .check a asciiWords _ => a.needsWords && !asciiWords
    | _ => false
  let marks : State → Bool
    | .mark _ _ => true
    | _ => false
  ⟨states, start, p.demands .textStart false, states.any needsWords, states.any marks⟩

end Automaton
end Classwright
