/-!
# Grids of characters

A set of characters beyond one byte is a grid, and a character is known by its row and its column.
Rows are written out as strings; U+FFFD stands where there is no character, and what is missing at
the end of a row or of a grid is no character either.
-/

namespace OnAir.Charset

abbrev Grid := List String

def noCharacter : Char := '\uFFFD'

def Grid.at? (grid : Grid) (row column : Nat) : Option Char := do
  let c ← (← grid[row]?).toList[column]?
  if c = noCharacter then none else some c

def Grid.byBytes? (grid : Grid) (first second : Nat) : Option Char :=
  if first < 0x21 ∨ second < 0x21 ∨ 0x7e < second then none
  else grid.at? (first - 0x21) (second - 0x21)

def inStretches? (stretches : List (Nat × String)) (code : Nat) : Option Char := do
  let (start, text) ← stretches.find? fun (start, text) =>
    start ≤ code && code < start + text.length
  let c ← text.toList[code - start]?
  if c = noCharacter then none else some c

def Grid.codes (grid : Grid) : List Nat :=
  (grid.flatMap fun row => row.toList.map Char.toNat).mergeSort

def absent (codes : List Nat) (first n : Nat) : Nat :=
  codes.foldl (fun candidate code => if code ≤ candidate then candidate + 1 else candidate)
    (first + n)

end OnAir.Charset
