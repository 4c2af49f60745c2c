import OnAir.Charset.Gb
import OnAir.Charset.Reader

/-!
# Simplified Chinese sets

The grid by itself, in eight bits or between marks in seven, and its two successors. The first adds
all ideographs of its time that the grid lacks, in their common order; the second adds every
character there is, in sequences of four bytes.
-/

namespace OnAir.Charset.Gb

def pair? (a b : Nat) : Option Char :=
  basic.byBytes? (a - 0x80) (b - 0x80)

def reader : Reader :=
  .pairs pair?

/-- The reader of the seven-bit form; it remembers whether it is within marks. -/
def marked : Reader where
  State := Bool
  start := false
  front within a rest :=
    if 0x80 ≤ a then .bad 0 within
    else if a = '~'.toUInt8 then match rest with
      | [] => .short
      | b :: _ =>
        let c := Char.ofNat b.toNat
        if within then (if c = '\x7d' then .text [] 1 false else .bad 0 within)
        else if c = '~' then .text ['~'] 1 within
        else if c = '\x7b' then .text [] 1 true
        else if c = '\n' then .text [] 1 within
        else .bad 0 within
    else if within then match rest with
      | [] => .short
      | b :: _ => .ofChar? (basic.byBytes? a.toNat b.toNat) 1 within
    else .text [Char.ofNat a.toNat] 0 within
  finish _ := []

-- -----------------------------------------------------------------------------
-- The first successor
-- -----------------------------------------------------------------------------

def ideographs : List Nat :=
  Grid.codes (basic.drop 15)

def apart : List Char :=
  "\uf92c\uf979\uf995\uf9e7\uf9f1\ufa0c\ufa0d\ufa0e\ufa0f\ufa11\ufa13".toList
    ++ "\ufa14\ufa18\ufa1f\ufa20\ufa21\ufa23\ufa24\ufa27\ufa28\ufa29".toList

/-- The added ideograph at a place: first come the 14139 that the grid lacks of those from U+4E00 to
U+9FA5. -/
def added? (place : Nat) : Option Char :=
  if place < 14139 then some (Char.ofNat (absent ideographs 0x4e00 place))
  else apart[place - 14139]?

def column? (b : Nat) : Option Nat :=
  if 0x40 ≤ b ∧ b ≤ 0x7e then some (b - 0x40)
  else if 0x80 ≤ b ∧ b ≤ 0xfe then some (b - 0x41)
  else none

/-- The place of two bytes among the added ideographs: first bytes before the grid's have all
columns, those from the ideographs of the grid on have the columns before the grid's. -/
def place? (a b : Nat) : Option Nat := do
  let column ← column? b
  if 0x81 ≤ a ∧ a ≤ 0xa0 then return (a - 0x81) * 190 + column
  else if 0xaa ≤ a ∧ a ≤ 0xfe ∧ column < 96 then return 32 * 190 + (a - 0xaa) * 96 + column
  else none

def extendedPair? (a b : Nat) : Option Char :=
  (inStretches? signs (a * 256 + b)).orElse fun _ =>
    (pair? a b).orElse fun _ => (place? a b).bind added?

def extended : Reader :=
  .pairs extendedPair?

-- -----------------------------------------------------------------------------
-- The second successor
-- -----------------------------------------------------------------------------

def private? (a b : Nat) : Option Char := do
  let column ← column? b
  if 0xaa ≤ a ∧ a ≤ 0xaf ∧ 0xa1 ≤ b then
    return Char.ofNat (0xe000 + (a - 0xaa) * 94 + (b - 0xa1))
  else if 0xf8 ≤ a ∧ a ≤ 0xfe ∧ 0xa1 ≤ b then
    return Char.ofNat (0xe234 + (a - 0xf8) * 94 + (b - 0xa1))
  else if 0xa1 ≤ a ∧ a ≤ 0xa7 ∧ column < 96 then
    return Char.ofNat (0xe4c6 + (a - 0xa1) * 96 + column)
  else
    let code := a * 256 + b
    let (start, first, _) ← privateRuns.find? fun (start, _, count) =>
      start ≤ code && code < start + count
    return Char.ofNat (first + (code - start))

def fullPair? (a b : Nat) : Option Char :=
  (extendedPair? a b).orElse fun _ =>
    (inStretches? laterSigns (a * 256 + b)).orElse fun _ => private? a b

/-- The character of four bytes: of the first planes by their stretches, of the later ones in
order. -/
def four? (a b c d : Nat) : Option Char :=
  if a < 0x81 ∨ a = 0xff ∨ c < 0x81 ∨ c = 0xff ∨ d < 0x30 ∨ 0x39 < d then none
  else
    let number := ((a - 0x81) * 10 + (b - 0x30)) * 1260 + (c - 0x81) * 10 + (d - 0x30)
    if number < 39420 then do
      let (start, first) ← (fourByteRuns.takeWhile fun run => run.1 ≤ number).getLast?
      return Char.ofNat (first + (number - start))
    else if 189000 ≤ number ∧ number - 189000 < 0x100000 then
      some (Char.ofNat (0x10000 + (number - 189000)))
    else none

/-- The reader of the second successor. A digit as the second byte makes a sequence of four. -/
def full : Reader :=
  .plain fun a rest =>
    if a < 0x80 then .text [Char.ofNat a.toNat] 0 ()
    else match rest with
      | [] => .short
      | b :: rest =>
        if 0x30 ≤ b ∧ b ≤ 0x39 then match rest with
          | c :: d :: _ => .ofChar? (four? a.toNat b.toNat c.toNat d.toNat) 3 ()
          | _ => .short
        else .ofChar? (fullPair? a.toNat b.toNat) 1 ()

end OnAir.Charset.Gb
