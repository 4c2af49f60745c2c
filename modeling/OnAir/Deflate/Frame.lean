import OnAir.Deflate.Inflate
import OnAir.Digest.Crc32
import OnAir.Text.Cut

/-!
# Frames of compressed streams

A compressed stream travels bare or in one of two frames. Both open with a header and close with a
checksum of the bytes; one of them also names the file the bytes came from and counts them. What
follows a frame is ignored.
-/

namespace OnAir.Deflate

def adler32 (bytes : Bytes) : Nat :=
  let (a, b) := bytes.foldl
    (fun (sums : Nat × Nat) byte =>
      let a := (sums.1 + byte.toNat) % 65521
      (a, (sums.2 + a) % 65521))
    (1, 0)
  b * 65536 + a

/-- What came out of a stream, and how reading it ended before its end, if it did. -/
structure Outcome where
  output : Bytes
  halt : Option Halt
  deriving DecidableEq, Repr

def bare (bytes : Bytes) : Outcome :=
  let (output, ending) := inflate bytes
  ⟨output, match ending with
    | .ok _ => none
    | .error halt => some halt⟩

/-- Reads the rest of a framed stream; `check` looks at what follows the blocks. -/
def closed (check : Bytes → Bytes → Except Halt Unit) (bytes : Bytes) : Outcome :=
  let (output, ending) := inflate bytes
  ⟨output, match ending.bind (check output) with
    | .ok () => none
    | .error halt => some halt⟩

def afterHeader (header : Except Halt Bytes) (check : Bytes → Bytes → Except Halt Unit) :
    Outcome :=
  match header with
  | .error halt => ⟨[], some halt⟩
  | .ok rest => closed check rest

def take (count : Nat) (bytes : Bytes) : Except Halt (Bytes × Bytes) :=
  if bytes.length < count then .error .cut else .ok (bytes.splitAt count)

-- -----------------------------------------------------------------------------
-- The plain frame
-- -----------------------------------------------------------------------------

/-- The header of the plain frame: it names this method and a window of at most 32 KiB, is a
multiple of 31, and asks for no dictionary. -/
def plainHeader (bytes : Bytes) : Except Halt Bytes := do
  let (header, rest) ← take 2 bytes
  let method := header.getD 0 0
  let flags := header.getD 1 0
  if Bytes.toNat header % 31 ≠ 0 then throw (.fault .header)
  if method &&& 15 ≠ 8 then throw (.fault .method)
  if 0x78 < method then throw (.fault .window)
  if flags &&& 32 ≠ 0 then
    let _ ← take 4 rest
    throw (.fault .dictionary)
  return rest

def plainCheck (output rest : Bytes) : Except Halt Unit := do
  let (sum, _) ← take 4 rest
  if Bytes.toNat sum ≠ adler32 output then throw (.fault .checksum)

def framed (bytes : Bytes) : Outcome :=
  afterHeader (plainHeader bytes) plainCheck

def inflate? (bytes : Bytes) : Option Bytes :=
  let outcome := framed bytes
  if outcome.halt.isNone then some outcome.output else none

-- -----------------------------------------------------------------------------
-- The frame of files
-- -----------------------------------------------------------------------------

def littleEndian (bytes : Bytes) : Nat :=
  Bytes.toNat bytes.reverse

def skipText (bytes : Bytes) : Except Halt Bytes :=
  match Text.cutFirst? 0 bytes with
  | some (_, rest) => .ok rest
  | none => .error .cut

/-- The header of the frame of files. Its flags tell what else it holds: a checksum of itself,
extra bytes, the name of a file, and a comment. -/
def fileHeader (bytes : Bytes) : Except Halt Bytes := do
  let (magic, rest) ← take 2 bytes
  if magic ≠ [0x1f, 0x8b] then throw (.fault .header)
  let (kind, rest) ← take 2 rest
  let flags := kind.getD 1 0
  if kind.getD 0 0 ≠ 8 then throw (.fault .method)
  if flags &&& 0xe0 ≠ 0 then throw (.fault .headerFlags)
  let (_, rest) ← take 6 rest
  let rest ← if flags &&& 4 = 0 then pure rest else do
    let (length, rest) ← take 2 rest
    let (_, rest) ← take (littleEndian length) rest
    pure rest
  let rest ← if flags &&& 8 = 0 then pure rest else skipText rest
  let rest ← if flags &&& 16 = 0 then pure rest else skipText rest
  if flags &&& 2 = 0 then return rest
  let (sum, after) ← take 2 rest
  if littleEndian sum ≠ Crc32.sum (bytes.take (bytes.length - rest.length)) % 65536 then
    throw (.fault .headerChecksum)
  return after

def fileCheck (output rest : Bytes) : Except Halt Unit := do
  let (sum, rest) ← take 4 rest
  if littleEndian sum ≠ Crc32.sum output then throw (.fault .checksum)
  let (length, _) ← take 4 rest
  if littleEndian length ≠ output.length % Nat.pow 2 32 then throw (.fault .length)

def filed (bytes : Bytes) : Outcome :=
  afterHeader (fileHeader bytes) fileCheck

end OnAir.Deflate
