import OnAir.Digest.Sha1
import OnAir.Digest.Sha512

/-!
# Keyed hashes

A keyed hash over any digest, and the two instances in use. Nothing in the library looks inside
them: what it needs of a keyed hash is that nobody without the key produces its value.
-/

namespace OnAir.Hmac

structure Digest where
  blockSize : Nat
  run : Bytes → Bytes

def sha1 : Digest := ⟨64, Sha1.digest⟩

def sha512 : Digest := ⟨128, Sha512.digest⟩

def blockKey (digest : Digest) (key : Bytes) : Bytes :=
  let short := if digest.blockSize < key.length then digest.run key else key
  short ++ List.replicate (digest.blockSize - short.length) 0

def mac (digest : Digest) (key message : Bytes) : Bytes :=
  let key := blockKey digest key
  digest.run (key.map (· ^^^ 0x5c) ++ digest.run (key.map (· ^^^ 0x36) ++ message))

end OnAir.Hmac
