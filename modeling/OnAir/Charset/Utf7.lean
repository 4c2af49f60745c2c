import OnAir.Bytes.Base64
import OnAir.Charset.Wide

/-!
# UTF-7

Text in seven bits: between a plus and a minus sign, digits of base 64 spell units of 16 bits. Any
other character that is no digit ends such a stretch too and stands for itself. What is left of the
bits must be less than a digit, and zero.
-/

namespace OnAir.Charset.Utf7

/-- Where a reader stands: in the open, or within a stretch with the first half of a pair, and with
a number of bits that make no unit yet. -/
inductive State
  | direct
  | shifted (half : Option Nat) (width bits : Nat)
  deriving DecidableEq, Repr

def digit? (b : UInt8) : Option Nat :=
  if b = '-'.toUInt8 ∨ b = '_'.toUInt8 then none else (Base64.value? b).map UInt8.toNat

def lone (half : Option Nat) : List Char :=
  half.toList.map fun _ => noCharacter

/-- A unit after the first half of a pair, if there is one: the text it completes, and the first
half that it is itself. -/
def unit (half : Option Nat) (n : Nat) : List Char × Option Nat :=
  if 0xd800 ≤ n ∧ n < 0xdc00 then (lone half, some n)
  else match half with
    | none => ((char? n).toList ++ if (char? n).isNone then [noCharacter] else [], none)
    | some high =>
      if 0xdc00 ≤ n ∧ n < 0xe000 then
        ((char? (0x10000 + (high - 0xd800) * 1024 + (n - 0xdc00))).toList, none)
      else (noCharacter :: (char? n).toList, none)

def front (b : UInt8) (rest : Bytes) : Front State :=
  if b = '+'.toUInt8 then match rest with
    | [] => .text [] 0 (.shifted none 0 0)
    | c :: _ =>
      if c = '-'.toUInt8 then .text ['+'] 1 .direct
      else if (digit? c).isSome then .text [] 0 (.shifted none 0 0)
      else .bad 1 .direct
  else if b < 0x80 then .text [Char.ofNat b.toNat] 0 .direct
  else .bad 0 .direct

def frontShifted (half : Option Nat) (width bits : Nat) (b : UInt8) (rest : Bytes) : Front State :=
  match digit? b with
  | some d =>
    let bits := bits * 64 + d
    if width + 6 < 16 then .text [] 0 (.shifted half (width + 6) bits)
    else
      let left := width + 6 - 16
      let (text, half) := unit half (bits / Nat.pow 2 left)
      .text text 0 (.shifted half left (bits % Nat.pow 2 left))
  | none =>
    if 6 ≤ width ∨ bits ≠ 0 then .bad 0 .direct
    else if b = '-'.toUInt8 then .text (lone half) 0 .direct
    else
      let before := if b < 0x80 ∧ b ≠ '+'.toUInt8 then lone half else []
      match front b rest with
      | .text t more next => .text (before ++ t) more next
      | .bad more next => .text (before ++ [noCharacter]) more next
      | .short => .short

/-- The reader. A stretch that does not end must have nothing left over. -/
def reader : Reader where
  State := State
  start := .direct
  front := fun
    | .direct, b, rest => front b rest
    | .shifted half width bits, b, rest => frontShifted half width bits b rest
  finish := fun
    | .direct => []
    | .shifted half width bits =>
      if half.isSome ∨ 6 ≤ width ∨ bits ≠ 0 then [noCharacter] else []

end OnAir.Charset.Utf7
