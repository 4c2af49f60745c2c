import OnAir.Bytes.Basic
import OnAir.Text.Raw
import OnAir.Time.Clock

/-!
# Faults of the store

The store may fail at any of its events. What it raises belongs to one of three families: a unique
column rejected a value, the store is out of order, or something else altogether. Faults to come
are a list; of those for one event only the first counts down.
-/

namespace OnAir.Store

inductive Family
  | uniqueViolation
  | outage
  | other
  deriving DecidableEq, Repr

/-- Something the store raised, with the name and the text under which it is reported. -/
structure StoreError where
  family : Family
  name : String
  text : String
  deriving DecidableEq, Repr

def StoreError.duplicate : StoreError :=
  ⟨.uniqueViolation, "UniqueViolationError", "duplicate key"⟩

def StoreError.zeroCharacter : StoreError :=
  ⟨.outage, "CharacterNotInRepertoireError", "invalid byte sequence for encoding \"UTF8\": 0x00"⟩

def StoreError.undated (e : Instant.RangeError) : StoreError :=
  ⟨.other, "OverflowError", e.message⟩

def StoreError.poolNotOpen : StoreError :=
  ⟨.other, "RuntimeError", "Postgres pool is not open"⟩

-- -----------------------------------------------------------------------------
-- Arguments
-- -----------------------------------------------------------------------------

inductive Argument
  | text (t : RawText)
  | flag (b : Bool)
  | bytes (bytes : Bytes)
  deriving DecidableEq, Repr

/-- Why a text cannot be an argument: the store takes no zero character, and its driver no broken
text. -/
inductive TextError
  | zeroCharacter
  | surrogate (e : SurrogateError)
  deriving DecidableEq, Repr

/-- How the driver of the store reports a broken text among the arguments of a statement. Which
family that is depends on the driver, but no unique column is involved. -/
structure Refusal where
  family : Family
  name : String
  text : List Argument → SurrogateError → String
  foreign : family ≠ .uniqueViolation

namespace Refusal

def error (refusal : Refusal) (arguments : List Argument) : TextError → StoreError
  | .zeroCharacter => .zeroCharacter
  | .surrogate e => ⟨refusal.family, refusal.name, refusal.text arguments e⟩

def bare : Refusal :=
  ⟨.other, "UnicodeEncodeError", fun _ e => e.message, by decide⟩

/-- A driver that counts the error among its own and names the argument, cut to forty
characters. -/
def wrapping : Refusal where
  family := .outage
  name := "DataError"
  text arguments e :=
    let broken := RawText.broken e.codes
    let shown := broken.quoted
    "invalid input for query argument $" ++ toString (arguments.idxOf (.text broken) + 1) ++ ": "
      ++ String.ofList (if 40 < shown.length then shown.take 40 ++ ['.', '.', '.'] else shown)
      ++ " (" ++ e.message ++ ")"
  foreign := by decide

end Refusal

-- -----------------------------------------------------------------------------
-- Faults
-- -----------------------------------------------------------------------------

inductive Event
  | createPool
  | acquire
  | begin
  | statement
  | commit
  | release
  | closePool
  deriving DecidableEq, Repr

/-- A fault to come: the `nth` event of its kind raises the error. -/
structure Fault where
  event : Event
  nth : Nat
  error : StoreError
  deriving DecidableEq, Repr

def nextFault (event : Event) : List Fault → Option StoreError × List Fault
  | [] => (none, [])
  | fault :: rest =>
    if fault.event = event then
      if fault.nth ≤ 1 then (some fault.error, rest)
      else (none, { fault with nth := fault.nth - 1 } :: rest)
    else
      let (struck, rest) := nextFault event rest
      (struck, fault :: rest)

end OnAir.Store
