import Classwright.Pattern.Automaton
import Classwright.Pattern.Basic
import Std.Data.HashSet
/-!
# Searching for a pattern

A search walks over a text once, with all attempts to match side by side, ordered by preference. An
attempt is a state with a note. At each place the attempts walk on to states that eat or are done; a
state that an earlier attempt has been in at this place is not entered again. When an attempt is
done, those after it are dropped, and the ones before it may still find a match that is preferred.

The span of a match and its groups are found by two searches. The first one looks at what is in
front of a place, and walks again once the next character is known and settles a condition. It
notes only where an attempt has started. The second one, within the span, notes all marks. They
differ where a turn of a loop can be empty: what is walked before the next character is known
decides which way into the loop comes first.
-/
namespace Classwright

/-! ## Places in a text

A place is between two characters, or at an end of the text. Some conditions on a place are settled
by what is in front of it; most need the next character too. -/

/-- A place in a text: how many characters are in front of it, the last of these, and the next
character. -/
structure Place where
  index : Nat
  before : Option Char
  after : Option Char

namespace Place

def isInWord (asciiWords : Bool) (c : Option Char) : Bool :=
  c.any (if asciiWords then CharSet.word.asciiPart else CharSet.word).has

def satisfies (here : Place) (a : Anchor) (asciiWords : Bool) : Bool :=
  let inFront := isInWord asciiWords here.before
  let behind := isInWord asciiWords here.after
  match a with
  | .textStart => here.index = 0
  | .textEnd => here.after.isNone
  | .lineStart => here.index = 0 || here.before == some '\n'
  | .lineEnd => here.after.isNone || here.after == some '\n'
  | .returnLineStart =>
    here.index = 0 || here.before == some '\n' ||
      here.before == some '\r' && here.after != some '\n'
  | .returnLineEnd =>
    here.after.isNone || here.after == some '\r' ||
      here.after == some '\n' && here.before != some '\r'
  | .wordEdge => inFront != behind
  | .noWordEdge => inFront == behind
  | .wordStart => !inFront && behind
  | .wordEnd => inFront && !behind
  | .wordStartHalf => !inFront
  | .wordEndHalf => !behind

/-- The place is known to have a property before the next character is read. -/
def foresees (here : Place) (a : Anchor) (asciiWords : Bool) : Bool :=
  match a with
  | .textStart | .lineStart | .wordStartHalf => here.satisfies a asciiWords
  | .returnLineStart => here.index = 0 || here.before == some '\n'
  | _ => false

end Place

/-! ## Attempts -/

/-- A state of an automaton with a note. -/
structure Attempt (ν : Type) where
  state : Nat
  note : ν

/-- Marked places: the number of characters in front of each, by its number. -/
abbrev Marks := List (Nat × Nat)

/-- Mark a place anew. -/
def Marks.put (m : Marks) (slot index : Nat) : Marks := (slot, index) :: m.filter (·.1 != slot)

namespace Automaton

def state (m : Automaton) (n : Nat) : State := m.states.getD n .done

/-! ## Walking at a place -/

/-- Attempts walk on at a place. `holds` are the conditions that are known to hold, and `mark`
notes a mark. What is kept, the last one first, are attempts to eat, to check or to be done. Each
step takes an attempt, and each state adds at most two. -/
def walkFrom {ν : Type} (m : Automaton) (holds : Anchor → Bool → Bool) (mark : ν → Nat → ν) :
    Nat → Std.HashSet Nat → List (Attempt ν) → List (Attempt ν) → List (Attempt ν)
  | 0, _, kept, _ => kept
  | _, _, kept, [] => kept
  | fuel + 1, seen, kept, a :: later =>
    if seen.contains a.state then walkFrom m holds mark fuel seen kept later
    else
      let seen := seen.insert a.state
      match m.state a.state with
      | .eat _ _ | .done => walkFrom m holds mark fuel seen (a :: kept) later
      | .check c asciiWords next =>
        let later := if holds c asciiWords then ⟨next, a.note⟩ :: later else later
        walkFrom m holds mark fuel seen (a :: kept) later
      | .mark slot next => walkFrom m holds mark fuel seen kept (⟨next, mark a.note slot⟩ :: later)
      | .fork first second =>
        walkFrom m holds mark fuel seen kept (⟨first, a.note⟩ :: ⟨second, a.note⟩ :: later)

/-- Attempts after their walk at a place. -/
def walk {ν : Type} (m : Automaton) (holds : Anchor → Bool → Bool) (mark : ν → Nat → ν)
    (attempts : List (Attempt ν)) : List (Attempt ν) :=
  (walkFrom m holds mark (attempts.length + 2 * m.states.size + 1) {} [] attempts).reverse

def isDone {ν : Type} (m : Automaton) (a : Attempt ν) : Bool :=
  match m.state a.state with
  | .done => true
  | _ => false

def eat? {ν : Type} (m : Automaton) (c : Char) (a : Attempt ν) : Option (Attempt ν) :=
  match m.state a.state with
  | .eat s next => if s.has c then some ⟨next, a.note⟩ else none
  | _ => none

/-- Attempts after a character. The first one that is done drops those after it. -/
def eatAll {ν : Type} (m : Automaton) (c : Char) (attempts : List (Attempt ν)) :
    List (Attempt ν) :=
  (attempts.takeWhile (!m.isDone ·)).filterMap (m.eat? c)

/-- The note of the first attempt that is done. -/
def done? {ν : Type} (m : Automaton) (attempts : List (Attempt ν)) : Option ν :=
  (attempts.find? m.isDone).map (·.note)

/-! ## Groups -/

/-- The marks of the preferred match that starts at `first`, or behind it unless `fixed`, and ends
at `last` at most. Slots 0 and 1 are its start and end. While nothing is found, each place starts a
new attempt, after all others. -/
def marksFrom (m : Automaton) (first last : Nat) (fixed : Bool) :
    List (Attempt Marks) → Option Marks → Nat → Option Char → Text → Option Marks
  | attempts, found, index, before, after =>
    let here : Place := ⟨index, before, after.head?⟩
    let fresh := found.isNone && first ≤ index && (index = first || !fixed)
    let attempts := if fresh then attempts ++ [⟨m.start, [(0, index)]⟩] else attempts
    let attempts := m.walk here.satisfies (fun marks slot => marks.put slot index) attempts
    let found := ((m.done? attempts).map (·.put 1 index)).or found
    match after with
    | [] => found
    | c :: rest =>
      if index = last then found
      else marksFrom m first last fixed (m.eatAll c attempts) found (index + 1) (some c) rest

/-! ## Spans -/

/-- The next character has settled a condition that an attempt waits for. -/
def isSettled {ν : Type} (m : Automaton) (here : Place) (a : Attempt ν) : Bool :=
  match m.state a.state with
  | .check c asciiWords _ => here.satisfies c asciiWords && !here.foresees c asciiWords
  | _ => false

/-- Attempts at a place: after the walk before the next character is known, and after the walk that
follows when it settles a condition. -/
def settle (m : Automaton) (here : Place) (attempts : List (Attempt Nat)) :
    List (Attempt Nat) × List (Attempt Nat) :=
  let waiting := m.walk here.foresees (fun start _ => start) attempts
  if waiting.any (m.isSettled here) then
    (waiting, m.walk here.satisfies (fun start _ => start) waiting)
  else (waiting, waiting)

/-- What a search for a span comes to. -/
inductive Finding where
  | nothing
  /-- The numbers of characters in front of the start and of the end. -/
  | span (first last : Nat)
  /-- There is a character that is not ASCII, and words matter. -/
  | undecided

/-- What is found when the search ends. -/
def Finding.ofSpan? : Option (Nat × Nat) → Finding
  | some (first, last) => .span first last
  | none => .nothing

/-- The span of the first match, from a place on. `hit` says that a match ended at the place before
this one. -/
def spanFrom (m : Automaton) :
    List (Attempt Nat) → Option (Nat × Nat) → Bool → Nat → Option Char → Text → Finding
  | attempts, found, hit, index, before, after =>
    let fresh := found.isNone && (index = 0 || !m.anchored)
    let attempts := if fresh then attempts ++ [⟨m.start, index⟩] else attempts
    let (waiting, attempts) := m.settle ⟨index, before, after.head?⟩ attempts
    let done := m.done? attempts
    match after with
    | [] => .ofSpan? ((done.map (·, index)).or found)
    | c :: rest =>
      if waiting.isEmpty && !hit then .ofSpan? found
      else if m.needsWords && c.toNat ≥ 0x80 then .undecided
      else
        spanFrom m (m.eatAll c attempts) ((done.map (·, index)).or found) done.isSome (index + 1)
          (some c) rest

/-! ## Matches -/

/-- The marks of the first match in a text. Groups are marked when they are wanted. -/
def search (m : Automaton) (groups : Bool) (t : Text) : Option Marks :=
  match m.spanFrom [] none false 0 none t with
  | .nothing => none
  | .undecided => m.marksFrom 0 t.length false [] none 0 none t
  | .span first last =>
    if groups && m.marks then m.marksFrom first last true [] none 0 none t
    else some [(0, first), (1, last)]

end Automaton
end Classwright
