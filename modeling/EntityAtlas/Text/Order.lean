/-!
# The order of texts

Texts are ordered by code point, as `String` already has it; here are the comparison that sorting
takes and sorting itself.
-/

namespace EntityAtlas.Text

/-- Whether one text does not come after another. -/
def notAfter (a b : String) : Bool := !decide (b < a)

/-- Texts in ascending order, repetitions kept. -/
def sorted (texts : List String) : List String := texts.mergeSort notAfter

end EntityAtlas.Text
