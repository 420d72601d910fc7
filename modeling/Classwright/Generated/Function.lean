import Classwright.Text.CaseMap
/-!
# Generated functions

A function is written either whole inside its class, or as a declaration in the class and a
definition under the qualified name outside. Both forms are put together from the same parts.
-/
namespace Classwright

/-- Where the body of a generated function goes. -/
inductive Placement where
  | inHeader
  | inSource
deriving DecidableEq

namespace Placement

/-- How a placement is written at the end of an option. -/
def label : Placement → Text
  | inHeader => "(in header)"
  | inSource => "(in source)"

/-- Both placements, in the order in which they are offered. -/
def all : List Placement := [inHeader, inSource]

end Placement

/-- The written forms of one function; a function whole in the header has no definition. -/
structure GeneratedFunction where
  declaration : Text
  definition : Text
deriving DecidableEq

structure FunctionParts where
  /-- What stands in front of the name inside the class: a specifier or the return type, with the blank
  after it. -/
  lead : Text
  /-- The name, the parameters and what follows them. -/
  main : Text
  /-- First line as written outside the class. -/
  qualifiedHead : Text
  /-- The statements of the body. -/
  body : List Text

namespace FunctionParts

/-- First line as written inside the class. -/
def head (p : FunctionParts) : Text := p.lead ++ p.main

def bodyIndent : Text := "    "

/-- A body between braces on lines of their own. -/
def block (body : List Text) : Text :=
  "\x7b\n" ++ body.flatMap (fun line => bodyIndent ++ line ++ (['\n'] : Text)) ++ "\x7d\n"

/-- A first line with a body. -/
def withBody (head : Text) (body : List Text) : Text := head ++ '\n' :: block body

def render (p : FunctionParts) : Placement → GeneratedFunction
  | .inHeader => ⟨withBody p.head p.body, []⟩
  | .inSource => ⟨p.head ++ ";\n", withBody p.qualifiedHead p.body⟩

end FunctionParts

/-- A line behind an indentation; a blank line stays as it is. -/
def Text.indentLine (line indent : Text) : Text := if line.isBlank then line else indent ++ line

/-- All lines of a text that are not blank, moved behind an indentation. -/
def Text.indentLines (t indent : Text) : Text :=
  joinWith "\n" (t.pieces.map (·.indentLine indent))

namespace GeneratedFunction

/-- The function with its declaration moved into a class body. -/
def indented (indent : Text) (f : GeneratedFunction) : GeneratedFunction :=
  { f with declaration := f.declaration.indentLines indent }

/-- The declarations, to be inserted at one place. -/
def declarationBlock (fs : List GeneratedFunction) : Text := fs.flatMap declaration

/-- The definitions, each behind an empty line, to be added to a source file. -/
def definitionBlock (fs : List GeneratedFunction) : Text :=
  (fs.filter (!·.definition.isEmpty)).flatMap fun f => '\n' :: f.definition

end GeneratedFunction
end Classwright
