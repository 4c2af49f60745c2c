import OnAir.Bytes.Basic

/-!
# The cyclic checksum

A checksum of 32 bits: the remainder of the bytes, read as a polynomial over bits, by a fixed
polynomial of degree 32. Bits run from the least significant one on.
-/

namespace OnAir.Crc32

def shift (r : UInt32) : UInt32 :=
  if r &&& 1 = 0 then r >>> 1 else (r >>> 1) ^^^ 0xedb88320

def step (r : UInt32) (b : UInt8) : UInt32 :=
  Nat.repeat shift 8 (r ^^^ b.toUInt32)

def sum (bytes : Bytes) : Nat :=
  (bytes.foldl step 0xffffffff ^^^ 0xffffffff).toNat

end OnAir.Crc32
