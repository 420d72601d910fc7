import Classwright.Pattern.Bracket
/-!
# Reading patterns

A pattern is read from left to right. What is open on the way is kept in a draft: the groups around
the place, the alternatives that are finished in the innermost one, and the items since the last
bar. A pattern that nests too deep is refused like one that is badly formed.
-/
namespace Classwright

/-- A part of a pattern: how deep it nests, and whether a repetition may follow it. -/
structure PatternItem where
  pattern : Pattern
  depth : Nat := 0
  repeatable : Bool := true

/-- A group whose end is not read yet: what is in front of it in the group around it, the flags to
go back to, and the number under which it is remembered. -/
structure OpenGroup where
  branches : List PatternItem
  items : List PatternItem
  flags : PatternFlags
  number : Option Nat

/-- What is read so far. Branches and items have the last one first. -/
structure PatternDraft where
  groups : List OpenGroup := []
  branches : List PatternItem := []
  items : List PatternItem := []
  flags : PatternFlags := {}
  /-- Number of the last remembered group. -/
  count : Nat := 0
  /-- The names of remembered groups. -/
  names : List (Text × Nat) := []

structure NamedPattern where
  pattern : Pattern
  names : List (Text × Nat)

namespace PatternDraft

/-- The deepest nesting that is read. -/
def maxDepth : Nat := 250

/-- The largest count, plus one. -/
def countBound : Nat := twoTo 32

/-- Items in a row, of which the last one comes first, as one item. -/
def row (items : List PatternItem) : PatternItem :=
  match items with
  | [] => ⟨.empty, 0, true⟩
  | [i] => i
  | _ => ⟨.ofParts (items.reverse.map (·.pattern)), (items.map (·.depth)).foldl max 0 + 1, true⟩

/-- The alternatives of the innermost group as one item. -/
def alternatives (d : PatternDraft) : PatternItem :=
  let last := row d.items
  match d.branches with
  | [] => last
  | _ =>
    let all := last :: d.branches
    ⟨.ofBranches (all.reverse.map (·.pattern)), (all.map (·.depth)).foldl max 0 + 1, true⟩

def push (d : PatternDraft) (i : PatternItem) : PatternDraft := { d with items := i :: d.items }

/-- One more item without parts. -/
def pushPattern (d : PatternDraft) (p : Pattern) : PatternDraft := d.push { pattern := p }

/-! ## Repetitions -/

/-- Repeat the last item. A repetition needs an item that it can repeat. -/
def repeat? (d : PatternDraft) (least : Nat) (most : Option Nat) (greedy : Bool) :
    Option PatternDraft :=
  match d.items with
  | [] => none
  | i :: rest =>
    if i.repeatable then
      let p := Pattern.ofTurns i.pattern least most (greedy != d.flags.swapGreed)
      some { d with items := ⟨p, i.depth + 1, true⟩ :: rest }
    else none

/-- A question mark behind a repetition makes it lazy. -/
def laziness (t : Text) : Bool × Text :=
  match t with
  | '?' :: rest => (false, rest)
  | _ => (true, t)

/-- The digits in front of a text, without what does not count between them. -/
def digits (f : PatternFlags) : Nat → Text → Text × Text
  | 0, t => ([], t)
  | fuel + 1, t =>
    match t with
    | [] => ([], [])
    | c :: rest =>
      if c.isDigit then
        let (more, rest) := digits f fuel (f.skip rest)
        (c :: more, rest)
      else ([], c :: rest)

/-- A number between blanks, with the text behind it. -/
def decimal? (f : PatternFlags) (t : Text) : Option (Nat × Text) :=
  let (number, rest) := digits f t.length t.trimStart
  (natBelow? countBound number).map (·, f.skip rest.trimStart)

/-- The counts in braces, from the opening brace on: the turns to be made, and the most that may be
made. -/
def counts? (f : PatternFlags) (t : Text) : Option (Nat × Option Nat × Text) := do
  let (least, rest) ← decimal? f (← f.bump? t)
  match rest with
  | '\x7d' :: _ => return (least, some least, rest)
  | ',' :: _ =>
    let rest ← f.bump? rest
    match rest with
    | '\x7d' :: _ => return (least, none, rest)
    | _ =>
      let (most, rest) ← decimal? f rest
      if rest.head? = some '\x7d' ∧ least ≤ most then return (least, some most, rest) else none
  | _ => none

/-! ## Groups -/

/-- Flags up to a colon or a closing parenthesis: the flags set, the flags cleared, and the text
from that mark on. -/
def flagLetters : Bool → List (Bool × Char) → Text → Option (List (Bool × Char) × Text)
  | _, _, [] => none
  | negated, sofar, c :: rest =>
    if c == ':' || c == ')' then
      if negated && sofar.head?.all (·.1) then none else some (sofar.reverse, c :: rest)
    else if c == '-' then if negated then none else flagLetters true sofar rest
    else if !("imsUuRx" : Text).contains c || sofar.any (·.2 == c) then none
    else flagLetters negated ((!negated, c) :: sofar) rest

/-- The flags after one of them is set or cleared. -/
def setFlag (f : PatternFlags) : Bool × Char → PatternFlags
  | (on, 'i') => { f with ignoreCase := on }
  | (on, 'm') => { f with multiLine := on }
  | (on, 's') => { f with dotAll := on }
  | (on, 'U') => { f with swapGreed := on }
  | (on, 'u') => { f with unicode := on }
  | (on, 'R') => { f with returns := on }
  | (on, 'x') => { f with verbose := on }
  | _ => f

def isGroupName : Text → Bool
  | [] => false
  | c :: rest =>
    (c == '_' || isAlphabetic c) &&
      rest.all fun c => c == '_' || c == '.' || c == '[' || c == ']' || isAlphanumeric c

def openGroup (d : PatternDraft) (flags : PatternFlags) (number : Option Nat) : PatternDraft :=
  { d with groups := ⟨d.branches, d.items, d.flags, number⟩ :: d.groups
           branches := []
           items := []
           flags }

/-- Begin a group that is remembered. -/
def openNumbered (d : PatternDraft) : PatternDraft :=
  { d with count := d.count + 1 }.openGroup d.flags (some (d.count + 1))

/-- Begin a named group, from its name on. -/
def openNamed? (d : PatternDraft) (t : Text) : Option (PatternDraft × Text) := do
  let (name, rest) ← t.cut? ">"
  if isGroupName name && (d.names.lookup name).isNone then
    let d := d.openNumbered
    return ({ d with names := (name, d.count) :: d.names }, rest)
  else none

/-- What follows the question mark of a group: flags for the group, or for the rest of the group
around it. -/
def openFlags? (d : PatternDraft) (t : Text) : Option (PatternDraft × Text) := do
  let (letters, rest) ← flagLetters false [] t
  let flags := letters.foldl setFlag d.flags
  if rest.head? == some ')' then
    if t.head? == some ')' then none
    else return ({ d with flags }.push ⟨.empty, 0, false⟩, rest.drop 1)
  else return (d.openGroup flags none, rest.drop 1)

/-- Begin a group, behind its parenthesis. Groups that look around are not supported. -/
def open? (d : PatternDraft) (t : Text) : Option (PatternDraft × Text) :=
  let t := d.flags.skip t
  if t.startsWith "?=" || t.startsWith "?!" || t.startsWith "?<=" || t.startsWith "?<!" then none
  else match (t.stripStart? "?P<").or (t.stripStart? "?<"), t.stripStart? "?" with
    | some rest, _ => d.openNamed? rest
    | none, some rest => d.openFlags? rest
    | none, none => some (d.openNumbered, t)

/-- End the innermost group. -/
def close? (d : PatternDraft) : Option PatternDraft :=
  match d.groups with
  | [] => none
  | g :: groups =>
    let i := d.alternatives
    let p := match g.number with
      | some n => .group n i.pattern
      | none => i.pattern
    some { d with groups, branches := g.branches, flags := g.flags,
                  items := ⟨p, i.depth + 1, true⟩ :: g.items }

/-! ## The whole pattern -/

def ofEscape (f : PatternFlags) : Escape → Pattern
  | .char c => f.literal c
  | .set s => .ofSet s
  | .anchor a => f.condition a

/-- Read what begins with a character, and give the text behind it. -/
def step? (d : PatternDraft) (c : Char) (rest : Text) : Option (PatternDraft × Text) :=
  let f := d.flags
  match c with
  | '(' => d.open? rest
  | ')' => d.close?.map (·, rest)
  | '|' => some ({ d with branches := row d.items :: d.branches, items := [] }, rest)
  | '[' => do
    let (s, depth, rest) ← OpenBracket.read? f (c :: rest)
    return (d.push ⟨.ofSet s, depth, true⟩, rest)
  | '?' => do
    let (greedy, rest) := laziness rest
    return (← d.repeat? 0 (some 1) greedy, rest)
  | '*' => do
    let (greedy, rest) := laziness rest
    return (← d.repeat? 0 none greedy, rest)
  | '+' => do
    let (greedy, rest) := laziness rest
    return (← d.repeat? 1 none greedy, rest)
  | '\x7b' => do
    let (least, most, rest) ← counts? f (c :: rest)
    let (greedy, rest) := laziness (f.skip (rest.drop 1))
    return (← d.repeat? least most greedy, rest)
  | '\\' => do
    let (e, rest) ← Escape.read? f rest
    return (d.pushPattern (ofEscape f e), rest)
  | '.' => do return (d.pushPattern (.ofSet (← f.admitted? f.dot)), rest)
  | '^' => some (d.pushPattern (f.condition f.caret), rest)
  | '$' => some (d.pushPattern (f.condition f.dollar), rest)
  | c => some (d.pushPattern (f.literal c), rest)

/-- Read a text to its end. Each step takes at least one character. -/
def readAll : Nat → PatternDraft → Text → Option PatternDraft
  | 0, _, _ => none
  | fuel + 1, d, t =>
    match d.flags.skip t with
    | [] => some d
    | c :: rest => do
      let (d, rest) ← d.step? c rest
      readAll fuel d rest

end PatternDraft

def NamedPattern.read? (t : Text) : Option NamedPattern := do
  let d ← PatternDraft.readAll (t.length + 1) {} t
  let i := d.alternatives
  if d.groups.isEmpty && i.depth ≤ PatternDraft.maxDepth then return ⟨i.pattern, d.names⟩ else none

end Classwright
