/-!
# The order of texts

Texts are ordered by the codes of their characters, first difference first; a text comes before its
continuations. The bytes of texts in UTF-8 are in the same order.
-/

namespace OnAir.Text

def notAfter : List Char → List Char → Bool
  | [], _ => true
  | _ :: _, [] => false
  | a :: as, b :: bs => a.toNat < b.toNat || (a.toNat == b.toNat && notAfter as bs)

/-- Items sorted by a text that each of them has; equal ones keep their order. -/
def sortBy {α : Type} (key : α → String) (items : List α) : List α :=
  items.mergeSort fun a b => notAfter (key a).toList (key b).toList

end OnAir.Text
