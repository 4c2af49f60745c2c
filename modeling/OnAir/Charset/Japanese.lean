import OnAir.Charset.Jis
import OnAir.Charset.Reader

/-!
# Japanese sets

Two forms of the Japanese grids in eight bits. The shifted form folds two rows of the basic grid
into one first byte and leaves room for half-width letters; one vendor added rows of its own. The
other form sets the top bit of both bytes, and has prefixes for half-width letters and for the
supplement.
-/

namespace OnAir.Charset

def halfWidth? (b : Nat) : Option Char :=
  if 0xa1 ≤ b ∧ b ≤ 0xdf then some (Char.ofNat (0xff61 + (b - 0xa1))) else none

namespace ShiftJis

def column? (b : Nat) : Option Nat :=
  if 0x40 ≤ b ∧ b ≤ 0x7e then some (b - 0x40)
  else if 0x80 ≤ b ∧ b ≤ 0xfc then some (b - 0x41)
  else none

def row? (b : Nat) : Option Nat :=
  if 0x81 ≤ b ∧ b ≤ 0x9f then some (b - 0x81)
  else if 0xe0 ≤ b ∧ b ≤ 0xfc then some (b - 0xc1)
  else none

def folded? (grid : Grid) (first a b : Nat) : Option Char := do
  let row ← row? a
  let origin ← row? first
  let column ← column? b
  if row < origin then none
  else grid.at? (2 * (row - origin) + column / 94) (column % 94)

def pair? (a b : Nat) : Option Char :=
  folded? Jis.basic 0x81 a b

def vendorPair? (a b : Nat) : Option Char :=
  (inStretches? Jis.vendorDifferences (a * 256 + b)).orElse fun _ =>
    if a = 0x87 then folded? Jis.vendorSigns 0x87 a b
    else if a = 0xed ∨ a = 0xee then folded? Jis.vendorSelection 0xed a b
    else if 0xfa ≤ a then folded? Jis.vendorKanji 0xfa a b
    else if 0xf0 ≤ a then do
      return Char.ofNat (0xe000 + 188 * (a - 0xf0) + (← column? b))
    else pair? a b

def vendorSingle? (b : Nat) : Option Char :=
  [(0x80, '\u0080'), (0xa0, '\uf8f0'), (0xfd, '\uf8f1'), (0xfe, '\uf8f2'),
    (0xff, '\uf8f3')].lookup b

def reader (vendor : Bool) : Reader :=
  .plain fun b rest =>
    let n := b.toNat
    let single := if n < 0x80 then some (Char.ofNat n)
      else (halfWidth? n).orElse fun _ => if vendor then vendorSingle? n else none
    match single with
    | some c => .text [c] 0 ()
    | none =>
      if (row? n).isNone then .bad 0 ()
      else match rest with
        | [] => .short
        | c :: _ => .ofChar? ((if vendor then vendorPair? else pair?) n c.toNat) 1 ()

end ShiftJis

namespace EucJp

def reader : Reader :=
  .plain fun a rest =>
    if a < 0x80 then .text [Char.ofNat a.toNat] 0 ()
    else match rest with
      | [] => .short
      | b :: rest =>
        if a = 0x8e then .ofChar? (halfWidth? b.toNat) 1 ()
        else if a = 0x8f then match rest with
          | [] => .short
          | c :: _ =>
            .ofChar? (Jis.supplement.byBytes? (b.toNat - 0x80) (c.toNat - 0x80)) 2 ()
        else .ofChar? (Jis.basic.byBytes? (a.toNat - 0x80) (b.toNat - 0x80)) 1 ()

end EucJp
end OnAir.Charset
