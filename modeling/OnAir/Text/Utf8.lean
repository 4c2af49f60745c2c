import OnAir.Bytes.Basic
import OnAir.Bytes.Hex

/-!
# UTF-8

Reading goes byte by byte through a small automaton that knows which bytes may come next. It yields
characters and, for every longest stretch that cannot grow into one, a single mark. Strict reading
refuses marks; lossy reading turns each into U+FFFD. The first stretch that is no character can be
told with its place and with what is wrong with it.
-/

namespace OnAir.Utf8

def encode (text : List Char) : Bytes :=
  text.flatMap String.utf8EncodeChar

def ofString (s : String) : Bytes :=
  encode s.toList

/-- What a stretch of bytes stands for: a character, a lone half of a surrogate pair where halves
are let through, or nothing. -/
inductive Item
  | char (c : Char)
  | half (code : Nat)
  | bad
  deriving DecidableEq, Repr

/-- Where a reader stands: between characters, or inside one with `left` bytes to come, the next of
them between `low` and `high`, and the bits so far. -/
inductive State
  | start
  | inside (left : Nat) (low high : UInt8) (code : Nat)

def item (code : Nat) : Item :=
  if h : code.isValidChar then .char (Char.ofNatAux code h) else .half code

/-- A byte at the front of a character. `halves` lets encoded halves of surrogate pairs through. -/
def first (halves : Bool) (b : UInt8) : List Item × State :=
  let n := b.toNat
  if b < 0x80 then ([item n], .start)
  else if b < 0xc2 then ([.bad], .start)
  else if b < 0xe0 then ([], .inside 1 0x80 0xbf (n - 0xc0))
  else if b < 0xf0 then
    let low := if b = 0xe0 then 0xa0 else 0x80
    let high := if b = 0xed ∧ !halves then 0x9f else 0xbf
    ([], .inside 2 low high (n - 0xe0))
  else if b < 0xf5 then
    let low := if b = 0xf0 then 0x90 else 0x80
    let high := if b = 0xf4 then 0x8f else 0xbf
    ([], .inside 3 low high (n - 0xf0))
  else ([.bad], .start)

/-- One byte further: the items completed by it and the new state. A byte that does not fit closes
the stretch before it and starts anew. -/
def step (halves : Bool) (state : State) (b : UInt8) : List Item × State :=
  match state with
  | .start => first halves b
  | .inside left low high code =>
    if low ≤ b ∧ b ≤ high then
      let code := code * 64 + (b.toNat - 0x80)
      if left ≤ 1 then ([item code], .start) else ([], .inside (left - 1) 0x80 0xbf code)
    else
      let (items, next) := first halves b
      (.bad :: items, next)

/-- The items from a state on; bytes that end inside a character leave a mark. -/
def itemsFrom (halves : Bool) : State → Bytes → List Item
  | .start, [] => []
  | .inside .., [] => [.bad]
  | state, b :: rest =>
    let (items, next) := step halves state b
    items ++ itemsFrom halves next rest

def items (halves : Bool) (bytes : Bytes) : List Item :=
  itemsFrom halves .start bytes

def decode? (bytes : Bytes) : Option (List Char) :=
  (items false bytes).mapM fun
    | .char c => some c
    | _ => none

def decodeLossy (bytes : Bytes) : List Char :=
  (items false bytes).map fun
    | .char c => c
    | _ => '\uFFFD'

-- -----------------------------------------------------------------------------
-- Faults
-- -----------------------------------------------------------------------------

/-- What is wrong with a stretch of bytes that is no character: no character starts like this, it
does not go on like this, or the bytes end inside it. -/
inductive Cause
  | startByte
  | continuation
  | ended
  deriving DecidableEq, Repr

def Cause.message : Cause → String
  | .startByte => "invalid start byte"
  | .continuation => "invalid continuation byte"
  | .ended => "unexpected end of data"

/-- A stretch of bytes that is no character, with the number of bytes before it. -/
structure Fault where
  position : Nat
  stretch : Bytes
  cause : Cause
  deriving DecidableEq, Repr

def Fault.message (f : Fault) : String :=
  let place := match f.stretch with
    | [b] => "byte 0x" ++ String.ofList (Hex.encode [b]) ++ " in position " ++ toString f.position
    | _ => "bytes in position " ++ toString f.position ++ "-"
      ++ toString (f.position + f.stretch.length - 1)
  "'utf-8' codec can't decode " ++ place ++ ": " ++ f.cause.message

/-- The first fault from a state on; `held` are the bytes of the character it stands in. -/
def faultFrom? (position : Nat) (held : Bytes) : State → Bytes → Option Fault
  | .start, [] => none
  | .inside .., [] => some ⟨position, held, .ended⟩
  | .start, b :: rest => match first false b with
    | ([], state) => faultFrom? position [b] state rest
    | (item :: _, state) =>
      if item = .bad then some ⟨position, [b], .startByte⟩
      else faultFrom? (position + 1) [] state rest
  | .inside left low high code, b :: rest =>
    if low ≤ b ∧ b ≤ high then
      if left ≤ 1 then faultFrom? (position + held.length + 1) [] .start rest
      else faultFrom? position (held ++ [b]) (.inside (left - 1) 0x80 0xbf code) rest
    else some ⟨position, held, .continuation⟩

def fault? (bytes : Bytes) : Option Fault :=
  faultFrom? 0 [] .start bytes

end OnAir.Utf8
