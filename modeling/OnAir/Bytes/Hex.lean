import OnAir.Bytes.Basic

/-!
# Hexadecimal text

Two digits a byte, written in lower case and read in either case. Blanks may stand between bytes
but not inside one.
-/

namespace OnAir.Hex

/-- The digit of a nibble in lower case; a value above fifteen has the digit of its last nibble. -/
def digit (nibble : UInt8) : Char :=
  let n := (nibble &&& 15).toNat
  if n < 10 then Char.ofNat (48 + n) else Char.ofNat (87 + n)

def upperDigit (nibble : UInt8) : Char :=
  let n := (nibble &&& 15).toNat
  if n < 10 then Char.ofNat (48 + n) else Char.ofNat (55 + n)

def digit? (c : Char) : Option UInt8 :=
  if '0' ≤ c ∧ c ≤ '9' then some (UInt8.ofNat (c.toNat - 48))
  else if 'a' ≤ c ∧ c ≤ 'f' then some (UInt8.ofNat (c.toNat - 87))
  else if 'A' ≤ c ∧ c ≤ 'F' then some (UInt8.ofNat (c.toNat - 55))
  else none

def encode (bytes : Bytes) : List Char :=
  List.flatMap (fun b : UInt8 => [digit (b >>> 4), digit b]) bytes

def isBlank (c : Char) : Bool :=
  c == ' ' || ('\t' ≤ c && c ≤ '\r')

def decode? : List Char → Option Bytes
  | [] => some []
  | [c] => if isBlank c then some [] else none
  | c :: d :: rest =>
    if isBlank c then decode? (d :: rest)
    else match digit? c, digit? d with
      | some high, some low => (decode? rest).map ((high * 16 + low) :: ·)
      | _, _ => none

end OnAir.Hex
