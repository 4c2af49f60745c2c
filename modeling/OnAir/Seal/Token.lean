import OnAir.Deflate.Frame
import OnAir.Json.Check
import OnAir.Json.Integer
import OnAir.Json.Reader
import OnAir.Json.Writer
import OnAir.Seal.Signature
import OnAir.Time.Calendar
import OnAir.Time.Clock

/-!
# Sealed tokens

A token is a signed text of two parts, a document and the second at which it was signed. The
document holds a value and its lifetime. Tokens are written in one way; in reading, the document
may also be compressed, which a leading point announces.
-/

namespace OnAir.Seal

/-- The second part of a signed text: the second at which it was signed, without leading zeros. -/
def encodeStamp (seconds : Nat) : Bytes :=
  encodePart (Bytes.ofNat seconds)

def decodeStamp? (part : Bytes) : Option Nat :=
  match Base64.decode? part with
  | some bytes => if bytes.length ≤ 8 then some (Bytes.toNat bytes) else none
  | none => none

def document (value : Json) (lifetime : Int) : Json :=
  .obj [("v", value), ("ttl", .int lifetime)]

def documentBytes (value : Json) (lifetime : Int) : Bytes :=
  Utf8.encode (Json.text Json.tokenLayout (document value lifetime))

def signedText (value : Json) (lifetime : Int) (seconds : Nat) : Bytes :=
  encodePart (documentBytes value lifetime) ++ point :: encodeStamp seconds

/-- Why a document cannot be written: an integer has too many digits, or containers nest too
deep. -/
inductive WriteError
  | tooManyDigits
  | tooDeep
  deriving DecidableEq, Repr

def WriteError.message : WriteError → String
  | .tooManyDigits =>
    "Exceeds the limit (4300 digits) for integer string conversion; "
      ++ "use sys.set_int_max_str_digits() to increase the limit"
  | .tooDeep => "maximum recursion depth exceeded while encoding a JSON object"

def WriteError.name : WriteError → String
  | .tooManyDigits => "ValueError"
  | .tooDeep => "RecursionError"

/-- Documents keep to what can be read back: the digits of an integer and the depth of containers
are limited. Strings may hold anything, for what is broken in them shows only later. -/
def documentLimits : Json.Limits WriteError where
  integer n :=
    if Integer.digitLimit < (Integer.natText n.natAbs).length then .error .tooManyDigits
    else .ok ()
  string _ := .ok ()
  tooDeep := .tooDeep

inductive PayloadError
  | base64
  | compressed
  | document
  deriving DecidableEq, Repr

def PayloadError.message : PayloadError → String
  | .base64 => "Could not base64 decode the payload because of an exception"
  | .compressed => "Could not zlib decompress the payload before decoding the payload"
  | .document =>
    "Could not load the payload because an exception occurred on unserializing the data."

def readDocument (bytes : Bytes) : Except PayloadError Json :=
  match Utf8.decode? bytes with
  | none => .error .document
  | some text => (Json.read text).mapError fun _ => .document

def readPayload (part : Bytes) : Except PayloadError Json :=
  let (compressed, part) := if part.head? = some point then (true, part.drop 1) else (false, part)
  match Base64.decode? part with
  | none => .error .base64
  | some bytes =>
    if compressed then
      match Deflate.inflate? bytes with
      | none => .error .compressed
      | some bytes => readDocument bytes
    else readDocument bytes

end OnAir.Seal
