import OnAir.Bytes.Basic

/-!
# SHA-1

The digest that signs cookies. The message schedule is a window of the last sixteen words, so a
round needs no index into it.
-/

namespace OnAir.Sha1

structure State where
  a : UInt32
  b : UInt32
  c : UInt32
  d : UInt32
  e : UInt32

def initial : State :=
  ⟨0x67452301, 0xefcdab89, 0x98badcfe, 0x10325476, 0xc3d2e1f0⟩

def rotl (x amount : UInt32) : UInt32 :=
  (x <<< amount) ||| (x >>> (32 - amount))

def mix (round : Nat) (b c d : UInt32) : UInt32 × UInt32 :=
  if round < 20 then ((b &&& c) ||| (~~~b &&& d), 0x5a827999)
  else if round < 40 then (b ^^^ c ^^^ d, 0x6ed9eba1)
  else if round < 60 then ((b &&& c) ||| (b &&& d) ||| (c &&& d), 0x8f1bbcdc)
  else (b ^^^ c ^^^ d, 0xca62c1d6)

def rounds : Nat → List UInt32 → State → State
  | 0, _, s => s
  | left + 1, window, s =>
    let word := window.headD 0
    let next := rotl (window.getD 13 0 ^^^ window.getD 8 0 ^^^ window.getD 2 0 ^^^ word) 1
    let (f, k) := mix (79 - left) s.b s.c s.d
    let a := rotl s.a 5 + f + s.e + k + word
    rounds left (window.tail ++ [next]) ⟨a, s.a, rotl s.b 30, s.c, s.d⟩

def absorb (s : State) (block : Bytes) : State :=
  let words := (Bytes.pieces 4 block).map fun w => UInt32.ofNat (Bytes.toNat w)
  let t := rounds 80 words s
  ⟨s.a + t.a, s.b + t.b, s.c + t.c, s.d + t.d, s.e + t.e⟩

def pad (message : Bytes) : Bytes :=
  message ++ [0x80] ++ List.replicate ((119 - message.length % 64) % 64) 0
    ++ Bytes.ofNatPadded 8 (8 * message.length)

def digest (message : Bytes) : Bytes :=
  let s := (Bytes.pieces 64 (pad message)).foldl absorb initial
  [s.a, s.b, s.c, s.d, s.e].flatMap fun w => Bytes.ofNatPadded 4 w.toNat

end OnAir.Sha1
