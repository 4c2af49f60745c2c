import OnAir.Bytes.Basic

/-!
# Base 64

Writing is exact: one alphabet per use, with or without the closing `=` signs. Reading is lenient,
as cookies require: bytes outside both alphabets are passed over, the two alphabets mix freely, and
the bits a short last group leaves over are dropped. A text is refused only when its last group
holds a single symbol or lacks its closing signs.
-/

namespace OnAir.Base64

structure Alphabet where
  sixtyTwo : Char
  sixtyThree : Char
  deriving DecidableEq, Repr

def urlSafe : Alphabet := ⟨'-', '_'⟩

def standard : Alphabet := ⟨'+', '/'⟩

def symbol (alphabet : Alphabet) (v : UInt8) : Char :=
  let n := (v &&& 63).toNat
  if n < 26 then Char.ofNat (65 + n)
  else if n < 52 then Char.ofNat (71 + n)
  else if n < 62 then Char.ofNat (n - 4)
  else if n = 62 then alphabet.sixtyTwo
  else alphabet.sixtyThree

def value? (b : UInt8) : Option UInt8 :=
  if 65 ≤ b ∧ b ≤ 90 then some (b - 65)
  else if 97 ≤ b ∧ b ≤ 122 then some (b - 71)
  else if 48 ≤ b ∧ b ≤ 57 then some (b + 4)
  else if b = 43 ∨ b = 45 then some 62
  else if b = 47 ∨ b = 95 then some 63
  else none

def encode (alphabet : Alphabet) : Bytes → List Char
  | [] => []
  | [a] => [symbol alphabet (a >>> 2), symbol alphabet (a <<< 4)]
  | [a, b] =>
    [symbol alphabet (a >>> 2), symbol alphabet ((a <<< 4) ||| (b >>> 4)),
      symbol alphabet (b <<< 2)]
  | a :: b :: c :: rest =>
    symbol alphabet (a >>> 2) :: symbol alphabet ((a <<< 4) ||| (b >>> 4)) ::
      symbol alphabet ((b <<< 2) ||| (c >>> 6)) :: symbol alphabet c :: encode alphabet rest

def padding (length : Nat) : Nat :=
  (4 - length % 4) % 4

def encodePadded (alphabet : Alphabet) (bytes : Bytes) : List Char :=
  let body := encode alphabet bytes
  body ++ List.replicate (padding body.length) '='

-- -----------------------------------------------------------------------------
-- Reading
-- -----------------------------------------------------------------------------

/-- How much of a group of four symbols has been read, with the bits carried over to the next
byte. `two` remembers whether one closing sign stood after it. -/
inductive Group
  | zero
  | one (carry : UInt8)
  | two (carry : UInt8) (closing : Bool)
  | three (carry : UInt8)

/-- Reads the symbols of `text` after part of a group. The second of two closing signs after two
symbols, and the one after three, end the text; closing signs elsewhere mean nothing. -/
def decodeAfter : Group → Bytes → Option Bytes
  | .zero, [] => some []
  | _, [] => none
  | group, b :: rest =>
    if b = 61 then
      match group with
      | .two carry false => decodeAfter (.two carry true) rest
      | .two _ true | .three _ => some []
      | .zero => decodeAfter .zero rest
      | .one carry => decodeAfter (.one carry) rest
    else match value? b with
      | none => decodeAfter group rest
      | some v =>
        match group with
        | .zero => decodeAfter (.one v) rest
        | .one carry =>
          (decodeAfter (.two (v &&& 15) false) rest).map (((carry <<< 2) ||| (v >>> 4)) :: ·)
        | .two carry _ =>
          (decodeAfter (.three (v &&& 3)) rest).map (((carry <<< 4) ||| (v >>> 2)) :: ·)
        | .three carry => (decodeAfter .zero rest).map (((carry <<< 6) ||| v) :: ·)

/-- Reads a text that may lack its closing signs: as many are added as its length in bytes asks
for, whatever the bytes are. -/
def decode? (text : Bytes) : Option Bytes :=
  decodeAfter .zero (text ++ List.replicate (padding text.length) 61)

end OnAir.Base64
