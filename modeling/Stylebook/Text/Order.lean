/-!
# Order of texts

Texts are ordered character by character, by code point; sorting keeps the order of equal keys.
-/

namespace Stylebook.Text

/-- Whether a string comes before another or equals it. -/
def notAfter (a b : String) : Bool :=
  !decide (b < a)

/-- The strings in ascending order, repeats included. -/
def sorted (ss : List String) : List String :=
  ss.mergeSort notAfter

/-- The elements in ascending order of their keys; elements of one key keep their order. -/
def sortedBy {α : Type} (key : α → String) (xs : List α) : List α :=
  xs.mergeSort fun a b => notAfter (key a) (key b)

end Stylebook.Text
