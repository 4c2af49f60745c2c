import OnAir.Bytes.Basic
import OnAir.Charset.Grid

/-!
# Readers of character sets

A reader goes over bytes from front to back. At each place it says what the front stands for and
how many bytes that takes, and it may remember something. What stands for nothing becomes U+FFFD,
and so does a last piece that is too short, whatever its length.
-/

namespace OnAir.Charset

/-- What the front of some bytes stands for: a text, which takes the first byte and `more` others;
nothing, and then as many are passed over; or the beginning of something longer. -/
inductive Front (σ : Type)
  | text (t : List Char) (more : Nat) (next : σ)
  | bad (more : Nat) (next : σ)
  | short

structure Reader where
  State : Type
  start : State
  front : State → UInt8 → Bytes → Front State
  finish : State → List Char

def Reader.readFrom (r : Reader) (state : r.State) (bytes : Bytes) : List Char × Bytes :=
  match bytes with
  | [] => (r.finish state, [])
  | b :: rest => match r.front state b rest with
    | .text t more next =>
      let (text, left) := r.readFrom next (rest.drop more)
      (t ++ text, left)
    | .bad more next =>
      let (text, left) := r.readFrom next (rest.drop more)
      (noCharacter :: text, left)
    | .short => ([], b :: rest)
termination_by bytes.length
decreasing_by all_goals simp only [List.length_drop, List.length_cons]; omega

def Reader.read (r : Reader) (bytes : Bytes) : List Char :=
  let (text, left) := r.readFrom r.start bytes
  if left = [] then text else text ++ [noCharacter]

/-- Reads a byte string, unless a last piece that is too short has more than `limit` bytes. -/
def Reader.readWithin? (r : Reader) (limit : Nat) (bytes : Bytes) : Option (List Char) :=
  if limit < (r.readFrom r.start bytes).2.length then none else some (r.read bytes)

def Reader.plain (front : UInt8 → Bytes → Front Unit) : Reader where
  State := Unit
  start := ()
  front _ := front
  finish _ := []

def Front.ofChar? {σ : Type} (c : Option Char) (more : Nat) (next : σ) : Front σ :=
  match c with
  | some c => .text [c] more next
  | none => .bad 0 next

def Reader.pairs (char? : Nat → Nat → Option Char) : Reader :=
  .plain fun b rest =>
    if b < 0x80 then .text [Char.ofNat b.toNat] 0 ()
    else match rest with
      | [] => .short
      | c :: _ => .ofChar? (char? b.toNat c.toNat) 1 ()

end OnAir.Charset
