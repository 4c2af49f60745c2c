/-!
# Sets of codes

A property of characters is a set of codes, written as stretches of neighbours in ascending order.
-/

namespace OnAir.Text

abbrev Codes := List (Nat × Nat)

def Codes.has (codes : Codes) (n : Nat) : Bool :=
  codes.any fun (first, last) => first ≤ n && n ≤ last

/-- Whether a code is in one of the stretches, of which only every second code counts. -/
def Codes.hasSecond (codes : Codes) (n : Nat) : Bool :=
  codes.any fun (first, last) => first ≤ n && n ≤ last && (n - first) % 2 = 0

end OnAir.Text
