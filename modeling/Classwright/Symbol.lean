import Classwright.Position
/-!
# Symbols and classes

The outline of a source file is a forest of symbols. The classes and structs in it are listed in
pre-order, a nested class after the one around it; the class of a cursor is the one around it that
starts nearest above.
-/
namespace Classwright

/-- A symbol of an outline. Its kind is a number of the editor protocol. -/
inductive Symbol where
  | node (name : Text) (kind : Int) (range : Range) (children : List Symbol)

namespace Symbol

def name : Symbol → Text
  | node n _ _ _ => n

def kind : Symbol → Int
  | node _ k _ _ => k

def range : Symbol → Range
  | node _ _ r _ => r

def children : Symbol → List Symbol
  | node _ _ _ cs => cs

def methodKind : Int := 6

def isMethod (s : Symbol) : Bool := s.kind == methodKind

end Symbol

/-- The two kinds of symbols that count as classes. -/
inductive ClassKind where
  | classType
  | structType
deriving DecidableEq

def ClassKind.ofSymbolKind? (kind : Int) : Option ClassKind :=
  if kind = 5 then some .classType else if kind = 23 then some .structType else none

/-- A class or struct of an outline. -/
structure ClassSymbol where
  name : Text
  kind : ClassKind
  range : Range
  children : List Symbol

namespace ClassSymbol

def ofSymbol? : Symbol → Option ClassSymbol
  | .node name kind range children =>
    (ClassKind.ofSymbolKind? kind).map fun k => ⟨name, k, range, children⟩

/-- The lines of the class include the lines of the range; columns do not count. -/
def containsLines (c : ClassSymbol) (r : Range) : Bool :=
  c.range.start.line ≤ r.start.line && r.stop.line ≤ c.range.stop.line

/-- A child of the class is a method with this name. -/
def hasMethod (c : ClassSymbol) (name : Text) : Bool :=
  c.children.any fun s => s.isMethod && s.name == name

mutual
/-- The classes at and below a symbol, in pre-order. -/
def below : Symbol → List ClassSymbol
  | .node name kind range children =>
    (ofSymbol? (.node name kind range children)).toList ++ inForest children

/-- The classes in a forest, in pre-order. -/
def inForest : List Symbol → List ClassSymbol
  | [] => []
  | s :: rest => below s ++ inForest rest
end

/-- Lines between the start of the class and the start of a range in it. -/
def distance (c : ClassSymbol) (r : Range) : Nat := r.start.line - c.range.start.line

/-- The nearer of the best class so far and one more; a tie keeps the first. -/
def nearer (r : Range) (best : Option ClassSymbol) (c : ClassSymbol) : Option ClassSymbol :=
  match best with
  | none => some c
  | some b => if c.distance r < b.distance r then some c else some b

/-- The class around a range that starts nearest above it, the first such one in the list. -/
def locate (classes : List ClassSymbol) (r : Range) : Option ClassSymbol :=
  (classes.filter (·.containsLines r)).foldl (nearer r) none

def locateAt (classes : List ClassSymbol) (p : Position) : Option ClassSymbol :=
  locate classes (.at p)

end ClassSymbol
end Classwright
