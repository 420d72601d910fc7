import Classwright.Property.Age
import Classwright.Property.Boundary
/-!
# Asking for a property

The characters with a property are asked for by one name, which is that of a trait, a category or a
script, or by the name of a property and that of its value.
-/
namespace Classwright.Property

/-- The characters of a category or a group of categories, or one of three sets beside them. -/
def category? (name : Text) : Option CharSet :=
  match String.ofList name with
  | "any" => some .all
  | "assigned" => some (Category.set [.unassigned]).complement
  | "ascii" => some (.range '\x00' '\x7f')
  | _ => Category.ofName? name

/-- The characters that a loose name stands for. Some short names are kept for categories. -/
def ofName? (name : Text) : Option CharSet :=
  ((Trait.ofName? name).or (category? name)).or ((Script.ofName? name).map Script.set)

def names : String :=
  "General_Category gc, Script sc, Script_Extensions scx, Age, Grapheme_Cluster_Break GCB,
  Word_Break WB, Sentence_Break SB"

def ofValue? (property value : Text) : Option CharSet := do
  match ← Name.first? names property with
  | "General_Category" => category? value
  | "Script" => (Script.ofName? value).map Script.set
  | "Script_Extensions" => (Script.ofName? value).map Script.usedSet
  | "Age" => Age.ofName? value
  | "Grapheme_Cluster_Break" => ClusterBreak.ofName? value
  | "Word_Break" => WordBreak.ofName? value
  | "Sentence_Break" => SentenceBreak.ofName? value
  | _ => none

/-- The characters that a question asks for. A property and its value may be divided in three
ways. -/
def ask? (question : Text) : Option CharSet :=
  match (question.cut? "!=").or ((question.cut? ":").or (question.cut? "=")) with
  | some (property, value) => ofValue? (Name.loose property) (Name.loose value)
  | none => ofName? (Name.loose question)

end Classwright.Property
