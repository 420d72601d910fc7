import Classwright.Pattern.Footprint
import Classwright.Pattern.Reader
import Classwright.Pattern.Search
/-!
# Replacing a match

A replacement is a text in which `$` refers to groups of the match, by number or by name; `$$`
stands for a dollar sign. A group that the pattern does not have, or that took no part in the match,
is empty.
-/
namespace Classwright

structure PatternMatch where
  text : Text
  marks : Marks
  names : List (Text × Nat)

namespace PatternMatch

def part (m : PatternMatch) (first last : Nat) : Text :=
  match m.marks.lookup first, m.marks.lookup last with
  | some a, some b => (m.text.drop a).take (b - a)
  | _, _ => []

def group (m : PatternMatch) (n : Nat) : Text := m.part (2 * n) (2 * n + 1)

/-- The text of a group that is referred to by a number or a name. -/
def reference (m : PatternMatch) (key : Text) : Text :=
  match natBelow? (twoTo 64) key with
  | some n => m.group n
  | none => ((m.names.lookup key).map m.group).getD []

def before (m : PatternMatch) : Text := m.text.take ((m.marks.lookup 0).getD 0)

def after (m : PatternMatch) : Text := m.text.drop ((m.marks.lookup 1).getD 0)

end PatternMatch

namespace Replacement

/-- A character of a group's name that needs no braces. -/
def isKeyChar (c : Char) : Bool := c.isAlphanum || c == '_'

/-- The key behind a dollar sign, and how many characters it takes there. -/
def key? (t : Text) : Option (Text × Nat) :=
  match t with
  | '\x7b' :: rest => (Text.cut? rest "\x7d").map fun (key, _) => (key, key.length + 2)
  | _ =>
    let key : Text := t.takeWhile isKeyChar
    if key.isEmpty then none else some (key, key.length)

/-- A replacement with its references filled in, after `skip` characters that belong to one that is
filled in already. -/
def expandAfter (m : PatternMatch) : Nat → Text → Text
  | _, [] => []
  | skip + 1, _ :: rest => expandAfter m skip rest
  | 0, c :: rest =>
    if c != '$' then c :: expandAfter m 0 rest
    else if rest.head? == some '$' then '$' :: expandAfter m 1 rest
    else match key? rest with
      | some (key, length) => m.reference key ++ expandAfter m length rest
      | none => '$' :: expandAfter m 0 rest

/-- A replacement with its references filled in. -/
def expand (m : PatternMatch) (replacement : Text) : Text := expandAfter m 0 replacement

end Replacement

/-- A pattern that is ready to be searched for, with the names of its groups. -/
structure Matcher where
  automaton : Automaton
  names : List (Text × Nat)

namespace Matcher

/-- Read a pattern. One that is not well formed or too large is refused. -/
def read? (t : Text) : Option Matcher := do
  let p ← NamedPattern.read? t
  if Footprint.admits p.pattern then return ⟨.ofPattern p.pattern, p.names⟩ else none

/-- The first match in a text. Groups are marked when they are wanted. -/
def match? (m : Matcher) (groups : Bool) (t : Text) : Option PatternMatch :=
  (m.automaton.search groups t).map (⟨t, ·, m.names⟩)

/-- The text with the first match replaced. Groups matter when the replacement has a dollar sign. -/
def replaceFirst (m : Matcher) (t replacement : Text) : Text :=
  match m.match? (replacement.contains '$') t with
  | some found => found.before ++ Replacement.expand found replacement ++ found.after
  | none => t

end Matcher
end Classwright
