import OnAir.Bytes.Basic
import OnAir.Deflate.Code

/-!
# Inflation

Reads the blocks of a compressed stream: stored blocks, blocks of the fixed code and blocks that
bring their own. Whatever ends the reading, the bytes read so far are kept. Nothing here compresses,
as the library only ever writes plain payloads.
-/

namespace OnAir.Deflate

def bitsOf (bytes : Bytes) : List Bool :=
  bytes.flatMap fun b : UInt8 => (List.range 8).map b.toNat.testBit

def number : Nat → List Bool → Except Halt (Nat × List Bool)
  | 0, bits => .ok (0, bits)
  | width + 1, bit :: bits => do
    let (n, rest) ← number width bits
    return (2 * n + bit.toNat, rest)
  | _ + 1, [] => .error .cut

def orFault {α : Type} (f : Fault) : Option α → Except Halt α
  | some a => .ok a
  | none => .error (.fault f)

def lengthTable : List (Nat × Nat) := [
  (3, 0), (4, 0), (5, 0), (6, 0), (7, 0), (8, 0), (9, 0), (10, 0), (11, 1), (13, 1), (15, 1),
  (17, 1), (19, 2), (23, 2), (27, 2), (31, 2), (35, 3), (43, 3), (51, 3), (59, 3), (67, 4),
  (83, 4), (99, 4), (115, 4), (131, 5), (163, 5), (195, 5), (227, 5), (258, 0)]

def distanceTable : List (Nat × Nat) := [
  (1, 0), (2, 0), (3, 0), (4, 0), (5, 1), (7, 1), (9, 2), (13, 2), (17, 3), (25, 3), (33, 4),
  (49, 4), (65, 5), (97, 5), (129, 6), (193, 6), (257, 7), (385, 7), (513, 8), (769, 8), (1025, 9),
  (1537, 9), (2049, 10), (3073, 10), (4097, 11), (6145, 11), (8193, 12), (12289, 12), (16385, 13),
  (24577, 13)]

def lengthOrder : List Nat := [16, 17, 18, 0, 8, 7, 9, 6, 10, 5, 11, 4, 12, 3, 13, 2, 14, 1, 15]

def extended (table : List (Nat × Nat)) (f : Fault) (symbol : Nat) (bits : List Bool) :
    Except Halt (Nat × List Bool) := do
  let (base, extra) ← orFault f table[symbol]?
  let (n, bits) ← number extra bits
  return (base + n, bits)

/-- Adds `length` bytes to the output `out`, which is in reverse: the bytes from `distance` back,
over and over if they are fewer. -/
def copyBack (length distance : Nat) (out : List UInt8) : Except Halt (List UInt8) :=
  let fresh := min length distance
  let stretch := (out.drop (distance - fresh)).take fresh
  if stretch.length < fresh then .error (.fault .tooFarBack)
  else
    let copies := (List.replicate (length / distance + 1) stretch.reverse).flatten
    .ok ((copies.take length).reverse ++ out)

abbrev Written := List UInt8 × Except Halt (List Bool)

def repeated (distances : Tree) (symbol : Nat) (bits : List Bool) (out : List UInt8) :
    Except Halt (List UInt8 × List Bool) := do
  let (length, bits) ← extended lengthTable .literal (symbol - 257) bits
  let (far, bits) ← distances.next .distance bits
  let (distance, bits) ← extended distanceTable .distance far bits
  return (← copyBack length distance out, bits)

/-- Reads symbols up to the end of a block. Every symbol takes a bit, so the number of bits bounds
their number. -/
def symbols : Nat → Tree → Tree → List Bool → List UInt8 → Written
  | 0, _, _, _, out => (out, .error .cut)
  | left + 1, literals, distances, bits, out =>
    match literals.next .literal bits with
    | .error halt => (out, .error halt)
    | .ok (symbol, bits) =>
      if symbol < 256 then symbols left literals distances bits (UInt8.ofNat symbol :: out)
      else if symbol = 256 then (out, .ok bits)
      else match repeated distances symbol bits out with
        | .error halt => (out, .error halt)
        | .ok (out, bits) => symbols left literals distances bits out

/-- Reads `count` code lengths, latest first in `done`: 16 repeats the last length, 17 and 18
repeat zero. A run past the count is refused. -/
def codeLengths : Nat → Tree → Nat → List Bool → List Nat → Except Halt (List Nat × List Bool)
  | 0, _, _, _, _ => .error .cut
  | left + 1, tree, count, bits, done => do
    if count < done.length then throw (.fault .lengthRepeat)
    if done.length = count then return (done.reverse, bits)
    let (symbol, bits) ← tree.next .lengthCode bits
    if symbol < 16 then codeLengths left tree count bits (symbol :: done)
    else
      let (n, bits) ← number (if symbol = 16 then 2 else if symbol = 17 then 3 else 7) bits
      let length ← if symbol = 16 then orFault .lengthRepeat done.head? else pure 0
      let run := if symbol = 18 then n + 11 else n + 3
      codeLengths left tree count bits (List.replicate run length ++ done)

def shortLengths : Nat → List Bool → Except Halt (List Nat × List Bool)
  | 0, bits => .ok ([], bits)
  | count + 1, bits => do
    let (n, bits) ← number 3 bits
    let (rest, bits) ← shortLengths count bits
    return (n :: rest, bits)

def ownCodes (bits : List Bool) : Except Halt ((Tree × Tree) × List Bool) := do
  let (literals, bits) ← number 5 bits
  let (distances, bits) ← number 5 bits
  let (listed, bits) ← number 4 bits
  let literals := literals + 257
  let distances := distances + 1
  if 286 < literals ∨ 30 < distances then throw (.fault .symbolCounts)
  let (short, bits) ← shortLengths (listed + 4) bits
  let order := lengthOrder.zip short
  let tree ← orFault .lengthCode (Tree.ofLengths? .lengths
    ((List.range 19).map fun symbol => (order.lookup symbol).getD 0))
  let (all, bits) ← codeLengths (bits.length + 2) tree (literals + distances) bits []
  let literalLengths := all.take literals
  if literalLengths.getD 256 0 = 0 then throw (.fault .noBlockEnd)
  let literalTree ← orFault .literalCode (Tree.ofLengths? .data literalLengths)
  let distanceTree ← orFault .distanceCode (Tree.ofLengths? .data (all.drop literals))
  return ((literalTree, distanceTree), bits)

def fixedLiterals : List Nat :=
  List.replicate 144 8 ++ List.replicate 112 9 ++ List.replicate 24 7 ++ List.replicate 8 8

def fixedDistances : List Nat :=
  List.replicate 32 5

def copyBytes : Nat → List Bool → List UInt8 → Written
  | 0, bits, out => (out, .ok bits)
  | left + 1, bits, out => match number 8 bits with
    | .error halt => (out, .error halt)
    | .ok (n, bits) => copyBytes left bits (UInt8.ofNat n :: out)

/-- A stored block: its length, the length's complement, and that many bytes from the next byte
boundary on. -/
def stored (bits : List Bool) (out : List UInt8) : Written :=
  let header : Except Halt (Nat × List Bool) := do
    let (length, bits) ← number 16 (bits.drop (bits.length % 8))
    let (complement, bits) ← number 16 bits
    if length + complement = 65535 then return (length, bits) else throw (.fault .storedLength)
  match header with
  | .error halt => (out, .error halt)
  | .ok (length, bits) => copyBytes length bits out

def coded (codes : Except Halt ((Tree × Tree) × List Bool)) (out : List UInt8) : Written :=
  match codes with
  | .error halt => (out, .error halt)
  | .ok ((literals, distances), bits) => symbols (bits.length + 1) literals distances bits out

def fixedCodes (bits : List Bool) : Except Halt ((Tree × Tree) × List Bool) := do
  let literals ← orFault .literalCode (Tree.ofLengths? .data fixedLiterals)
  let distances ← orFault .distanceCode (Tree.ofLengths? .data fixedDistances)
  return ((literals, distances), bits)

def blocks : Nat → List Bool → List UInt8 → Written
  | 0, _, out => (out, .error .cut)
  | left + 1, bits, out =>
    match number 3 bits with
    | .error halt => (out, .error halt)
    | .ok (head, bits) =>
      let (out, ending) := match head / 2 with
        | 0 => stored bits out
        | 1 => coded (fixedCodes bits) out
        | 2 => coded (ownCodes bits) out
        | _ => (out, .error (.fault .blockKind))
      match ending with
      | .error halt => (out, .error halt)
      | .ok bits => if head % 2 = 1 then (out, .ok bits) else blocks left bits out

def inflate (bytes : Bytes) : Bytes × Except Halt Bytes :=
  let bits := bitsOf bytes
  let (out, ending) := blocks (bits.length + 1) bits []
  (out.reverse, ending.map fun bits => bytes.drop (bytes.length - bits.length / 8))

end OnAir.Deflate
