/-!
# Byte strings

Bytes travel as plain lists: bodies, keys and signatures are short, and every codec of the library
is a recursion over them. Big-endian numbers are the one arithmetic reading of a byte string.
-/

namespace OnAir

abbrev Bytes := List UInt8

namespace Bytes

/-- The number a byte string spells, most significant byte first; the empty string spells zero. -/
def toNat (bytes : Bytes) : Nat :=
  bytes.foldl (fun n b => n * 256 + b.toNat) 0

/-- The shortest byte string that spells `n`: no leading zero byte, and nothing at all for zero. -/
def ofNat (n : Nat) : Bytes :=
  if n = 0 then [] else ofNat (n / 256) ++ [UInt8.ofNat n]
termination_by n
decreasing_by omega

def ofNatPadded : Nat → Nat → Bytes
  | 0, _ => []
  | width + 1, n => ofNatPadded width (n / 256) ++ [UInt8.ofNat n]

/-- Cuts a byte string into pieces of `size` bytes; the last piece may be shorter. Pieces of no
bytes are taken to be pieces of one byte. -/
def pieces (size : Nat) : Bytes → List Bytes
  | [] => []
  | b :: rest => (b :: rest.take (size - 1)) :: pieces size (rest.drop (size - 1))
termination_by bytes => bytes.length
decreasing_by simp only [List.length_drop, List.length_cons]; omega

end Bytes

end OnAir
