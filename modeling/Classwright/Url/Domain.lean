import Classwright.Text.Composed
import Classwright.Text.Direction
import Classwright.Url.Label
import Classwright.Url.Mapping
/-!
# Domains

A domain is mapped to its usual form and taken apart into labels. Labels in ASCII that stand for
others are decoded. Then every label is checked: what it begins with, where its invisible joiners
stand, and, when the domain has letters that are written from right to left, that each label reads
in one direction only.
-/
namespace Classwright.Domain

/-! ## Invisible joiners -/

def nonJoiner : Char := '\u200C'

def joiner : Char := '\u200D'

/-- The next character that is not transparent joins as it is asked to. -/
def joinsNext (allowed : Joining → Bool) : Text → Bool
  | [] => false
  | c :: rest =>
    if joining c == .transparent then joinsNext allowed rest else allowed (joining c)

/-- The invisible joiners of a label stand behind a sign that takes the vowel away; the one that
separates may also stand between letters that would join. `before` is given backwards. -/
def joinersFit (before : Text) : Text → Bool
  | [] => true
  | c :: rest =>
    let afterVirama := before.head?.any fun b => markClass b == viramaClass
    let betweenJoined :=
      joinsNext (fun j => j == .leftSide || j == .bothSides) before &&
        joinsNext (fun j => j == .rightSide || j == .bothSides) rest
    (if c == joiner then afterVirama
      else if c == nonJoiner then afterVirama || betweenJoined
      else true) && joinersFit (c :: before) rest

/-! ## Direction -/

def isRightToLeft (c : Char) : Bool :=
  match direction c with
  | .right | .arabic | .arabicNumber => true
  | _ => false

/-- Classes that may stand in labels of both directions. -/
def isShared : Direction → Bool
  | .number | .numberSign | .numberSeparator | .numberEnd | .neutral | .boundary | .mark => true
  | _ => false

def lastDirection? (label : List Direction) : Option Direction :=
  (label.filter (· != .mark)).getLast?

/-- A label that begins with a letter written from left to right. -/
def fitsLeft (label : List Direction) : Bool :=
  label.all (fun d => d == .left || isShared d) &&
    (lastDirection? label).any fun d => d == .left || d == .number

/-- A label that begins with a letter written from right to left has numbers of one kind only. -/
def fitsRight (label : List Direction) : Bool :=
  label.all (fun d => d == .right || d == .arabic || d == .arabicNumber || isShared d) &&
    (lastDirection? label).any (fun d =>
      d == .right || d == .arabic || d == .number || d == .arabicNumber) &&
    !(label.contains .number && label.contains .arabicNumber)

def readsOneWay (label : Text) : Bool :=
  match label.map direction with
  | [] => true
  | .left :: rest => fitsLeft (.left :: rest)
  | .right :: rest => fitsRight (.right :: rest)
  | .arabic :: rest => fitsRight (.arabic :: rest)
  | _ => false

/-! ## Labels -/

/-- The label has its usual form already. -/
def isSettled (label : Text) : Bool :=
  label.all (fun c => mapChar? c == some [c]) && label.composed == label

/-- A label does not begin with a mark, or with the mark of another label, and its joiners fit. -/
def isValidLabel (label : Text) : Bool :=
  !label.head?.any isMark && !label.startsWith Label.mark && joinersFit [] label

/-- The label that a label in its usual form stands for. -/
def decodeLabel? (label : Text) : Option Text := do
  let decoded ← match label.stripStart? Label.mark with
    | some rest =>
      if rest.all (·.toNat < 0x80) then
        (Label.decode? rest).bind fun decoded => if isSettled decoded then some decoded else none
      else none
    | none => some label
  if isValidLabel decoded then some decoded else none

/-! ## Whole domains -/

def ascii? (t : Text) : Option Text := do
  let labels ← ((← mapped? t).composed.splitOn '.').mapM decodeLabel?
  if labels.any (·.any isRightToLeft) && !labels.all readsOneWay then none
  return Text.joinWith "." (← labels.mapM Label.encode?)

end Classwright.Domain
