import OnAir.Bytes.Hex
import OnAir.Validation.Problem

/-!
# Reading submitted fields

Values are checked kind by kind, without guessing: text is text, and only switches take several
spellings. A record reads all its fields, so its complaints come together and in field order.
-/

namespace OnAir.Validation

abbrev Checked (α : Type) := Except (List Complaint) α

/-- Both of two checked values; complaints about the first come first. -/
def Checked.both {α β : Type} : Checked α → Checked β → Checked (α × β)
  | .ok a, .ok b => .ok (a, b)
  | .error first, .error second => .error (first ++ second)
  | .error first, .ok _ => .error first
  | .ok _, .error second => .error second

abbrev Fields := List (RawText × Json)

abbrev Reader (α : Type) := Json → Except Problem α

def complain {α : Type} (name : String) (problem : Problem) : Checked α :=
  .error [⟨problem, [.field name]⟩]

def required {α : Type} (fields : Fields) (name : String) (read : Reader α) : Checked α :=
  match fields.lookup (.text name) with
  | none => complain name .missing
  | some value =>
    match read value with
    | .ok a => .ok a
    | .error problem => complain name problem

def optional {α : Type} (fields : Fields) (name : String) (read : Reader α) (default : α) :
    Checked α :=
  match fields.lookup (.text name) with
  | none => .ok default
  | some _ => required fields name read

/-- The members of a value that must be an object, else a complaint about the whole. -/
def objectOr (problem : Problem) : Json → Checked Fields
  | .obj fields => .ok fields
  | _ => .error [⟨problem, []⟩]

-- -----------------------------------------------------------------------------
-- Single values
-- -----------------------------------------------------------------------------

def rawText : Reader RawText
  | .str s => .ok s
  | _ => .error .notText

/-- Text of which nothing more is asked; what is broken in it is filled with U+FFFD. -/
def filledText : Reader String := fun value =>
  (rawText value).map RawText.filled

def text : Reader String := fun value => do
  match ← rawText value with
  | .text s => return s
  | .broken _ => throw .brokenText

def nullable {α : Type} (read : Reader α) : Reader (Option α)
  | .null => .ok none
  | value => (read value).map some

def textFrom (least : Nat) : Reader String := fun value => do
  let s ← text value
  if s.length < least then throw (.tooShort least)
  return s

def onWords : List String := ["1", "t", "true", "y", "yes", "on"]

def offWords : List String := ["0", "f", "false", "n", "no", "off"]

def flagOfInt (n : Int) : Except Problem Bool :=
  if n = 0 then .ok false
  else if n = 1 then .ok true
  else if -Nat.pow 2 63 ≤ n ∧ n < Nat.pow 2 63 then .error .unreadableFlag
  else .error .notFlag

def isWord : Double → Bool
  | .finite negative m q =>
    let x := (Double.finite negative m q).toRat
    x.den = 1 && -Nat.pow 2 63 < x.num && x.num < Nat.pow 2 63
  | _ => false

def flag : Reader Bool
  | .bool b => .ok b
  | .int n => flagOfInt n
  | .float x => if isWord x then flagOfInt x.truncate else .error .notFlag
  | .str (.text s) =>
    let word := String.ofList (Text.lower s.toList)
    if onWords.contains word then .ok true
    else if offWords.contains word then .ok false
    else .error .unreadableFlag
  | .str (.broken _) => .error .brokenText
  | _ => .error .notFlag

def hexBytes : Reader Bytes
  | .str s =>
    match s.text?.bind fun s => Hex.decode? s.toList with
    | some bytes => .ok bytes
    | none => .error (.refused "must be hex encoded")
  | _ => .error .notBytes

def leadsWithZero : List Char → Bool
  | '-' :: '0' :: _ :: _ => true
  | _ => false

/-- An integer in any of its spellings, but only a positive one may have zeros in front. -/
def integer : Reader Int
  | .int n => .ok n
  | .bool b => .ok (if b then 1 else 0)
  | .float x =>
    if isWord x then .ok x.truncate
    else if x.toRat.den = 1 then .error .integerTooLarge
    else .error .fraction
  | .str (.text s) =>
    let body := Integer.trim s.toList
    match body.all (·.toNat < 128) && !leadsWithZero body, Integer.read body with
    | true, .ok n => .ok n
    | _, _ => .error .unreadableInteger
  | .str (.broken _) => .error .brokenText
  | _ => .error .notInteger

def plainFlag? : Json → Option Bool
  | .bool b => some b
  | .int n => (flagOfInt n).toOption
  | .float (.finite negative m q) =>
    let x := (Double.finite negative m q).toRat
    if x = 0 then some false else if x = 1 then some true else none
  | _ => none

def literalFlag (expected : Bool) : Reader Bool := fun value =>
  if plainFlag? value = some expected then .ok expected
  else .error (.notLiteral (if expected then "True" else "False"))

end OnAir.Validation
