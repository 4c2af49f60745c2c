import OnAir.Bytes.Hex
import OnAir.Charset.Wide

/-!
# Text in escapes

Bytes are the characters of their numbers, and a backslash begins an escape. The full form has
escapes for controls, for quotes and for numbers in octal and hexadecimal digits; the raw form only
has those with four or eight hexadecimal digits. A backslash before anything else is a backslash.
Names of characters are not known here.
-/

namespace OnAir.Charset.Escaped

def ofNumber (n : Nat) : List Char :=
  [(char? n).getD noCharacter]

def digit? (b : UInt8) : Option Nat :=
  (Hex.digit? (Char.ofNat b.toNat)).map UInt8.toNat

def secondHalf? : Bytes → Option Nat
  | 0x5c :: 0x75 :: a :: b :: c :: d :: _ => do
    let digits ← [a, b, c, d].mapM digit?
    let n := digits.foldl (fun n d => n * 16 + d) 0
    if 0xdc00 ≤ n ∧ n < 0xe000 then some n else none
  | _ => none

/-- An escape with `count` hexadecimal digits, `seen` of which have been read. It stops before what
is no digit. The escapes of the two halves of a pair are one character. -/
def hex (seen value : Nat) : Nat → Bytes → Front Unit
  | 0, rest =>
    if 0xd800 ≤ value ∧ value < 0xdc00 then match secondHalf? rest with
      | some second =>
        .text (ofNumber (0x10000 + (value - 0xd800) * 1024 + (second - 0xdc00))) (seen + 7) ()
      | none => .text (ofNumber value) (seen + 1) ()
    else if value < 0x110000 then .text (ofNumber value) (seen + 1) ()
    else .bad (seen + 1) ()
  | _ + 1, [] => .short
  | count + 1, b :: rest => match digit? b with
    | some d => hex (seen + 1) (value * 16 + d) count rest
    | none => .bad (seen + 1) ()

def isOctal (b : UInt8) : Bool :=
  '0'.toUInt8 ≤ b && b ≤ '7'.toUInt8

def octal (digits : Bytes) : Front Unit :=
  let digits := (digits.take 3).takeWhile isOctal
  .text (ofNumber (digits.foldl (fun n b => n * 8 + (b.toNat - 48)) 0)) digits.length ()

def letters : List (Char × List Char) := [
  ('\n', []), ('\\', ['\\']), ('\'', ['\'']), ('"', ['"']), ('b', ['\x08']), ('f', ['\x0c']),
  ('t', ['\t']), ('n', ['\n']), ('r', ['\r']), ('v', ['\x0b']), ('a', ['\x07'])]

def named : Bytes → Front Unit
  | [] => .short
  | b :: rest =>
    if b = '\x7b'.toUInt8 then
      let name := rest.takeWhile (· ≠ '\x7d'.toUInt8)
      if name.length = rest.length then .short
      else .bad (if name = [] then 2 else name.length + 3) ()
    else .bad 1 ()

def escape (raw : Bool) : Bytes → Front Unit
  | [] => if raw then .text ['\\'] 0 () else .short
  | b :: rest =>
    let c := Char.ofNat b.toNat
    if c = 'u' then hex 0 0 4 rest
    else if c = 'U' then hex 0 0 8 rest
    else if raw then .text ['\\', c] 1 ()
    else if c = 'x' then hex 0 0 2 rest
    else if c = 'N' then named rest
    else if isOctal b then octal (b :: rest)
    else .text ((letters.lookup c).getD ['\\', c]) 1 ()

def reader (raw : Bool) : Reader :=
  .plain fun b rest =>
    if b = '\\'.toUInt8 then escape raw rest else .text [Char.ofNat b.toNat] 0 ()

end OnAir.Charset.Escaped
