import OnAir.Text.Blank
import OnAir.Text.Digit
import OnAir.Text.Raw

/-!
# Integers in text

Settings, command tags and stored lifetimes spell integers liberally: blanks around them, one sign,
digits of any script, and single underscores between digits. The four separators of ASCII are no
blanks here. A text with more than 4300 digits is refused before it is read, so that reading stays
cheap, and a refusal shows only the beginning of a long text.
-/

namespace OnAir.Integer

def digitLimit : Nat := 4300

inductive ReadError
  | notInteger (text : RawText)
  | tooManyDigits (count : Nat)
  deriving DecidableEq, Repr

def shownLimit : Nat := 200

def ReadError.message : ReadError → String
  | .notInteger text =>
    "invalid literal for int() with base 10: " ++ String.ofList (text.quoted.take shownLimit)
  | .tooManyDigits count =>
    "Exceeds the limit (4300 digits) for integer string conversion: value has "
      ++ toString count
      ++ " digits; use sys.set_int_max_str_digits() to increase the limit"

/-- The digits at the front of a text, with single underscores between them taken out. Nothing if
an underscore does not stand between two digits. -/
def digits? : List Char → Option (List Nat × List Char)
  | [] => some ([], [])
  | [c] => match Text.digit? c with
    | some d => some ([d], [])
    | none => some ([], [c])
  | c :: '_' :: rest => match Text.digit? c with
    | some d => match digits? rest with
      | some ([], _) | none => none
      | some (ds, rest) => some (d :: ds, rest)
    | none => some ([], c :: '_' :: rest)
  | c :: next :: rest => match Text.digit? c with
    | some d => (digits? (next :: rest)).map fun (ds, rest) => (d :: ds, rest)
    | none => some ([], c :: next :: rest)

def ofDigits (digits : List Nat) : Nat :=
  digits.foldl (fun n d => n * 10 + d) 0

def isBlank (c : Char) : Bool :=
  Text.isBlank c && !(28 ≤ c.toNat && c.toNat < 32)

def trim (text : List Char) : List Char :=
  Text.dropTail isBlank (text.dropWhile isBlank)

/-- Reads an integer. The count of digits is checked before what follows them. -/
def read (text : List Char) : Except ReadError Int :=
  let refusal := ReadError.notInteger (String.ofList text)
  let body := trim text
  let (negative, body) := match body with
    | '-' :: rest => (true, rest)
    | '+' :: rest => (false, rest)
    | _ => (false, body)
  match digits? body with
  | none | some ([], _) => .error refusal
  | some (digits, rest) =>
    if digitLimit < digits.length then .error (.tooManyDigits digits.length)
    else if rest ≠ [] then .error refusal
    else
      let n : Int := ofDigits digits
      .ok (if negative then -n else n)

def natText (n : Nat) : List Char :=
  Nat.toDigits 10 n

def text (n : Int) : List Char :=
  if n < 0 then '-' :: natText n.natAbs else natText n.natAbs

end OnAir.Integer
