import OnAir.Text.CompositionPairs
import OnAir.Text.Mark

/-!
# Composed texts

The same text can be written with composed characters or with marks, and marks of different classes
can come in any order. The composed form takes characters apart, puts the marks in order of their
classes, and composes what can be composed.
-/

namespace OnAir.Text.Composition

-- -----------------------------------------------------------------------------
-- Syllables
-- -----------------------------------------------------------------------------

def syllableParts? (n : Nat) : Option (List Nat) :=
  if 0xac00 ≤ n ∧ n < 0xd7a4 then
    let place := n - 0xac00
    let final := place % 28
    some ([0x1100 + place / 588, 0x1161 + place % 588 / 28]
      ++ if final = 0 then [] else [0x11a7 + final])
  else none

/-- The syllable of two letters, or of a syllable without a final letter and such a letter. -/
def syllable? (first second : Nat) : Option Nat :=
  if 0x1100 ≤ first ∧ first < 0x1113 ∧ 0x1161 ≤ second ∧ second < 0x1176 then
    some (0xac00 + (first - 0x1100) * 588 + (second - 0x1161) * 28)
  else if 0xac00 ≤ first ∧ first < 0xd7a4 ∧ (first - 0xac00) % 28 = 0 ∧ 0x11a7 < second
      ∧ second < 0x11c3 then
    some (first + (second - 0x11a7))
  else none

-- -----------------------------------------------------------------------------
-- Taking apart and composing
-- -----------------------------------------------------------------------------

def parts? (n : Nat) : Option (Nat × Nat) :=
  pairsByMark.findSome? fun (mark, pairs) =>
    (pairs.find? fun (_, composed) => composed = n).map fun (first, _) => (first, mark)

def compose? (first second : Nat) : Option Nat :=
  (syllable? first second).orElse fun _ =>
    (pairsByMark.lookup second).bind fun pairs => pairs.lookup first

def apart : Nat → Nat → List Nat
  | 0, n => [n]
  | depth + 1, n => match syllableParts? n, parts? n with
    | some letters, _ => letters
    | none, some (first, mark) => apart depth first ++ [mark]
    | none, none => [n]

def insert (n : Nat) : List Nat → List Nat
  | [] => [n]
  | m :: rest =>
    if combiningClass m ≠ 0 ∧ combiningClass m < combiningClass n then m :: insert n rest
    else n :: m :: rest

/-- A text taken apart, with its marks in order. No code is composed more than three deep. -/
def decomposed (text : List Nat) : List Nat :=
  (text.flatMap (apart 3)).foldr insert []

/-- Composes codes with the last code that is no mark of a class. `held` are the marks between, the
last of which has the class `last`; a mark with one of its own class before it stays. -/
def composeFrom (base : Nat) (held : List Nat) (last : Nat) : List Nat → List Nat
  | [] => base :: held
  | n :: rest =>
    let found := if held = [] ∨ last < combiningClass n then compose? base n else none
    match found with
    | some composed => composeFrom composed held last rest
    | none =>
      if combiningClass n = 0 then base :: held ++ composeFrom n [] 0 rest
      else composeFrom base (held ++ [n]) (combiningClass n) rest

def composed (text : List Nat) : List Nat :=
  let front := text.takeWhile fun n => combiningClass n ≠ 0
  match text.drop front.length with
  | [] => front
  | base :: rest => front ++ composeFrom base [] 0 rest

def isComposed (text : List Nat) : Bool :=
  !text.any neverComposed.has && composed (decomposed text) = text

end OnAir.Text.Composition
