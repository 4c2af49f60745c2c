/-!
# Faults and prefix codes

Reading a compressed stream may end before the stream does. Its bytes may run out, which leaves
what was read so far, or they may make no sense; then the fault says what was being read.

A list of code lengths, one a symbol, fixes the code words of a canonical prefix code. A code is kept
as a binary tree, so reading a symbol is a walk from the root.
-/

namespace OnAir.Deflate

-- -----------------------------------------------------------------------------
-- Faults
-- -----------------------------------------------------------------------------

inductive Fault
  | header
  | method
  | window
  | headerFlags
  | headerChecksum
  | dictionary
  | blockKind
  | storedLength
  | symbolCounts
  | lengthCode
  | lengthRepeat
  | noBlockEnd
  | literalCode
  | distanceCode
  | literal
  | distance
  | tooFarBack
  | checksum
  | length
  deriving DecidableEq, Repr

/-- What a fault says of the stream. A stream that asks for a dictionary is sound in itself. -/
def Fault.detail : Fault → Option String
  | .header => some "incorrect header check"
  | .method => some "unknown compression method"
  | .window => some "invalid window size"
  | .headerFlags => some "unknown header flags set"
  | .headerChecksum => some "header crc mismatch"
  | .dictionary => none
  | .blockKind => some "invalid block type"
  | .storedLength => some "invalid stored block lengths"
  | .symbolCounts => some "too many length or distance symbols"
  | .lengthCode => some "invalid code lengths set"
  | .lengthRepeat => some "invalid bit length repeat"
  | .noBlockEnd => some "invalid code -- missing end-of-block"
  | .literalCode => some "invalid literal/lengths set"
  | .distanceCode => some "invalid distances set"
  | .literal => some "invalid literal/length code"
  | .distance => some "invalid distance code"
  | .tooFarBack => some "invalid distance too far back"
  | .checksum => some "incorrect data check"
  | .length => some "incorrect length check"

def Fault.message (f : Fault) : String :=
  match f.detail with
  | some detail => "Error -3 while decompressing data: " ++ detail
  | none => "Error 2 while decompressing data"

inductive Halt
  | cut
  | fault (f : Fault)
  deriving DecidableEq, Repr

-- -----------------------------------------------------------------------------
-- Prefix codes
-- -----------------------------------------------------------------------------

/-- A binary tree of symbols; `vacant` stands where no code word leads. -/
inductive Tree
  | vacant
  | leaf (symbol : Nat)
  | node (zero one : Tree)
  deriving Repr

/-- Places a symbol at the end of a path, most significant bit first. A path that meets a symbol
on its way replaces it, which lengths that pass `Purpose.fits` never cause. -/
def Tree.insert (symbol : Nat) : List Bool → Tree → Tree
  | [], _ => .leaf symbol
  | bit :: path, tree =>
    let (zero, one) := match tree with
      | .node zero one => (zero, one)
      | _ => (.vacant, .vacant)
    if bit then .node zero (insert symbol path one) else .node (insert symbol path zero) one

/-- Follows the bits from the root to a symbol; a place where no code word leads is a fault. -/
def Tree.next (f : Fault) : Tree → List Bool → Except Halt (Nat × List Bool)
  | .leaf symbol, bits => .ok (symbol, bits)
  | .vacant, _ => .error (.fault f)
  | .node _ _, [] => .error .cut
  | .node zero one, bit :: bits => if bit then one.next f bits else zero.next f bits

def path (width n : Nat) : List Bool :=
  (List.range width).reverse.map n.testBit

/-- The numbers of the code words: symbols in the order of length, then of number, each one more
than its predecessor, shifted when the length grows. `lengths` pairs a symbol with its length. -/
def codeWords (lengths : List Nat) : List (Nat × Nat × Nat) :=
  let used := lengths.zipIdx.filterMap fun (length, symbol) =>
    if length = 0 then none else some (symbol, length)
  let sorted := (List.range 16).flatMap fun length => used.filter (·.2 = length)
  (sorted.foldl
    (fun (state : Nat × Nat × List (Nat × Nat × Nat)) (symbol, length) =>
      let (code, last, done) := state
      let code := code * Nat.pow 2 (length - last)
      (code + 1, length, (symbol, length, code) :: done))
    (0, 0, [])).2.2.reverse

/-- How much of the code space the lengths take, in units of the longest length of fifteen. -/
def spaceUsed (lengths : List Nat) : Nat :=
  lengths.foldr (fun length space => (if length = 0 then 0 else Nat.pow 2 (15 - length)) + space) 0

/-- What a code is for: for the lengths of other codes, or for the data itself. -/
inductive Purpose
  | lengths
  | data
  deriving DecidableEq, Repr

/-- Whether lengths that are not all zero make a code: they fill the space exactly, or the code is
for data and has a single word of one bit. -/
def Purpose.fits (purpose : Purpose) (lengths : List Nat) : Bool :=
  spaceUsed lengths = Nat.pow 2 15 || (purpose = .data
    && lengths.all (fun length => length = 0 || length = 1) && lengths.count 1 = 1)

def Purpose.bare : Purpose → Tree
  | .lengths => .node (.leaf 0) (.leaf 0)
  | .data => .node .vacant .vacant

def Tree.ofLengths? (purpose : Purpose) (lengths : List Nat) : Option Tree :=
  if lengths.all (· = 0) then some purpose.bare
  else if purpose.fits lengths then
    some ((codeWords lengths).foldl
      (fun tree (symbol, length, code) => tree.insert symbol (path length code)) .vacant)
  else none

end OnAir.Deflate
