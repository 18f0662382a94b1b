-- SUMMARY: Sorting texts.

/-!
# Order

Texts are ordered by the code points of their characters.
-/

namespace Docsmith.Text

/-- The texts in increasing order. -/
def sorted (ts : List String) : List String := ts.mergeSort fun a b => !decide (b < a)

/-- The texts in increasing order, each of them once. -/
def sortedDistinct (ts : List String) : List String := sorted ts.eraseDups

end Docsmith.Text
