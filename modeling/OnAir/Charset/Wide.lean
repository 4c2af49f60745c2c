import OnAir.Charset.Reader

/-!
# Sets with wide units

Units of two bytes, two of which may make a pair, and units of four bytes, in either order of bytes.
Halves of pairs are no characters by themselves.
-/

namespace OnAir.Charset

inductive ByteOrder
  | little
  | big
  deriving DecidableEq, Repr

def ByteOrder.unit (order : ByteOrder) (bytes : Bytes) : Nat :=
  match order with
  | .little => Bytes.toNat bytes.reverse
  | .big => Bytes.toNat bytes

def char? (n : Nat) : Option Char :=
  if h : n.isValidChar then some (Char.ofNatAux n h) else none

/-- The reader of units of two bytes. A first half with too little after it ends the text. -/
def ByteOrder.utf16 (order : ByteOrder) : Reader :=
  .plain fun a rest => match rest with
    | [] => .short
    | b :: rest =>
      let unit := order.unit [a, b]
      if 0xd800 ≤ unit ∧ unit < 0xdc00 then match rest with
        | c :: d :: _ =>
          let second := order.unit [c, d]
          if 0xdc00 ≤ second ∧ second < 0xe000 then
            .ofChar? (char? (0x10000 + (unit - 0xd800) * 1024 + (second - 0xdc00))) 3 ()
          else .bad 1 ()
        | _ => .short
      else match char? unit with
        | some c => .text [c] 1 ()
        | none => .bad 1 ()

def ByteOrder.utf32 (order : ByteOrder) : Reader :=
  .plain fun a rest => match rest with
    | b :: c :: d :: _ => match char? (order.unit [a, b, c, d]) with
      | some c => .text [c] 3 ()
      | none => .bad 3 ()
    | _ => .short

end OnAir.Charset
