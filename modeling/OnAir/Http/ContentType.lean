import OnAir.Charset.Names
import OnAir.Text.Order
import OnAir.Text.Quoted
import OnAir.Url.Percent

/-!
# Content types

A content type is a list of parts between semicolons, and a part is a name with a value behind an
equals sign. A value may stand in quotes; semicolons inside quotes do not count. A value may also
come in pieces, with numbers behind the name, and in percent encoding, with the name of its own
character set in front. Of all this only the character set matters here.
-/

namespace OnAir.Http.ContentType

def escapedQuotes : List Char → Nat
  | '\\' :: '"' :: rest => escapedQuotes rest + 1
  | _ :: rest => escapedQuotes rest
  | [] => 0

def isOpen (text : List Char) : Bool :=
  (text.count '"' + escapedQuotes text) % 2 = 1

def joinOpen (front : List Char) : List (List Char) → List (List Char)
  | [] => [front]
  | piece :: rest =>
    if isOpen front then joinOpen (front ++ ';' :: piece) rest
    else front :: joinOpen piece rest

def parts (text : List Char) : List (List Char) :=
  match Text.pieces ';' text with
  | [] => []
  | piece :: rest => joinOpen piece rest

def nameAndValue (part : List Char) : List Char × List Char :=
  match Text.cutFirst? '=' part with
  | some (name, value) => (Text.lower (Text.trim name), Text.trim value)
  | none => (Text.trim part, [])

def halveBackslashes : List Char → List Char
  | '\\' :: '\\' :: rest => '\\' :: halveBackslashes rest
  | c :: rest => c :: halveBackslashes rest
  | [] => []

def bareQuotes : List Char → List Char
  | '\\' :: '"' :: rest => '"' :: bareQuotes rest
  | c :: rest => c :: bareQuotes rest
  | [] => []

def unquoted (value : List Char) : List Char :=
  let inner := (value.drop 1).dropLast
  if value.length < 2 then value
  else if value.head? = some '"' ∧ value.getLast? = some '"' then
    bareQuotes (halveBackslashes inner)
  else if value.head? = some '<' ∧ value.getLast? = some '>' then inner
  else value

-- -----------------------------------------------------------------------------
-- Values in pieces
-- -----------------------------------------------------------------------------

/-- A piece of a value: its number, whether it is in percent encoding, and its text. -/
structure Piece where
  number : Option Nat
  encoded : Bool
  text : List Char
  deriving DecidableEq, Repr

/-- The name behind the name of a piece, the number, and whether the piece is in percent
encoding. -/
def pieceName? (name : List Char) : Option (List Char × Option Nat × Bool) := do
  let (base, rest) ← Text.cutFirst? '*' name
  if base = [] ∨ !base.all fun c => c.isAlphanum || c == '_' then none
  let digits := rest.takeWhile Char.isDigit
  let number := if digits = [] then none else (String.ofList digits).toNat?
  if rest = [] then return (base, none, true)
  else if digits = [] then none
  else if rest = digits then return (base, number, false)
  else if rest = digits ++ ['*'] then return (base, number, true)
  else none

/-- The characters of the bytes that percent signs spell; other characters stay. -/
def unpercent : List Char → List Char
  | '%' :: high :: low :: rest => match Url.byte? high low with
    | some b => Char.ofNat b.toNat :: unpercent rest
    | none => '%' :: unpercent (high :: low :: rest)
  | c :: rest => c :: unpercent rest
  | [] => []

def inOrder (pieces : List Piece) : List Piece :=
  (Text.sortBy (fun p => String.ofList p.text) pieces).mergeSort fun a b =>
    match a.number, b.number with
    | none, _ => true
    | some _, none => false
    | some m, some n => m ≤ n

/-- The bytes of a text; characters beyond the first 256 are escaped. -/
def bytesOf (text : List Char) : Bytes :=
  text.flatMap fun c =>
    if c.toNat < 256 then [UInt8.ofNat c.toNat]
    else Utf8.encode (if c.toNat < 0x10000 then '\\' :: 'u' :: Text.hexDigits 4 c.toNat
      else '\\' :: 'U' :: Text.hexDigits 8 c.toNat)

def reread (set : List Char) (text : List Char) : List Char :=
  let set := if set = [] then "us-ascii".toList else set
  match (Charset.ofName? set).bind fun set => (set.decode (bytesOf text)).toOption with
  | some read => if read.contains Charset.noCharacter then text else read
  | none => text

/-- The value that pieces make. If one of them is in percent encoding, the value begins with the
name of its character set and with a language, each before a tick. -/
def assembled (pieces : List Piece) : List Char :=
  let texts := (inOrder pieces).map fun p => if p.encoded then unpercent p.text else p.text
  let value := texts.flatten
  if !pieces.any (·.encoded) then value
  else match Text.cutFirst? '\'' value with
    | none => reread [] value
    | some (set, rest) => match Text.cutFirst? '\'' rest with
      | none => reread [] value
      | some (_, text) => reread set text

-- -----------------------------------------------------------------------------
-- The character set
-- -----------------------------------------------------------------------------

/-- The name of the character set in a content type, in lower case; a name beyond ASCII is none. The
first part counts even where a type stands, but never as a piece. -/
def charset? (text : List Char) : Option (List Char) := do
  let parts := (parts text).map nameAndValue
  let plain := parts.zipIdx.filter fun ((name, _), place) =>
    Text.lower name = "charset".toList && (place = 0 || (pieceName? name).isNone)
  let pieces := (parts.drop 1).filterMap fun (name, value) => do
    let (base, number, encoded) ← pieceName? name
    if Text.lower base = "charset".toList then some ⟨number, encoded, unquoted value⟩ else none
  let value ← match plain.head?, pieces with
    | some ((_, value), _), _ => some (unquoted value)
    | none, [] => none
    | none, pieces => some (assembled pieces)
  if value.all (·.toNat < 128) then some (Text.lower value) else none

end OnAir.Http.ContentType
