import OnAir.Bytes.Hex
import OnAir.Text.Blank
import OnAir.Text.Utf8

/-!
# Percent encoding and forms

Quoting spells every byte of an unsafe character as `%XX`. Unquoting is total: a percent sign
without two digits stands for itself, and bytes that are no UTF-8 become U+FFFD. Forms are lists of
quoted pairs in which a blank is a plus sign.
-/

namespace OnAir.Url

def isUnreserved (c : Char) : Bool :=
  c.isAlphanum || c == '_' || c == '.' || c == '-' || c == '~'

def percent (b : UInt8) : List Char :=
  ['%', Hex.upperDigit (b >>> 4), Hex.upperDigit b]

def quoteChar (safe : Char → Bool) (c : Char) : List Char :=
  if safe c then [c] else (Utf8.encode [c]).flatMap percent

def quote (safe : Char → Bool) (text : List Char) : List Char :=
  text.flatMap (quoteChar safe)

def segment (s : String) : String :=
  String.ofList (quote isUnreserved s.toList)

def byte? (high low : Char) : Option UInt8 := do
  let high ← Hex.digit? high
  let low ← Hex.digit? low
  return high * 16 + low

/-- Unquotes a text after bytes that are still to be read as UTF-8, given in reverse. A character
beyond ASCII ends a stretch of bytes. -/
def unquoteAfter (pending : Bytes) : List Char → List Char
  | [] => Utf8.decodeLossy pending.reverse
  | '%' :: high :: low :: rest =>
    match byte? high low with
    | some b => unquoteAfter (b :: pending) rest
    | none => unquoteAfter (37 :: pending) (high :: low :: rest)
  | c :: rest =>
    if c.toNat < 128 then unquoteAfter (UInt8.ofNat c.toNat :: pending) rest
    else Utf8.decodeLossy pending.reverse ++ c :: unquoteAfter [] rest

def unquote (text : List Char) : List Char :=
  unquoteAfter [] text

namespace Form

def quote (text : List Char) : List Char :=
  (Url.quote (fun c => isUnreserved c || c == ' ') text).map fun c => if c = ' ' then '+' else c

def unquote (text : List Char) : List Char :=
  Url.unquote (text.map fun c => if c = '+' then ' ' else c)

def pair (entry : String × String) : List Char :=
  quote entry.1.toList ++ '=' :: quote entry.2.toList

def encode : List (String × String) → List Char
  | [] => []
  | [entry] => pair entry
  | entry :: rest => pair entry ++ '&' :: encode rest

/-- Reads one piece of a form. A piece without a value, and one with an empty value, counts only
if `blanks` are kept. -/
def readPair? (blanks : Bool) (piece : List Char) : Option (String × String) :=
  match Text.cutFirst? '=' piece with
  | some (name, value) =>
    if value = [] ∧ !blanks then none
    else some (String.ofList (unquote name), String.ofList (unquote value))
  | none => if blanks then some (String.ofList (unquote piece), "") else none

def decode (blanks : Bool) (text : List Char) : List (String × String) :=
  ((Text.pieces '&' text).filter (· ≠ [])).filterMap (readPair? blanks)

end Form
end OnAir.Url
