import OnAir.Bytes.Hex
import OnAir.Text.Printable

/-!
# Quoted text

How messages quote a text that may hold anything: in single quotes, or in double quotes if it has
single ones and no double ones, with a backslash before the quote in use and before itself, and
with an escape for every character that is not printable.
-/

namespace OnAir.Text

def hexDigits (width n : Nat) : List Char :=
  (List.range width).reverse.map fun k => Hex.digit (UInt8.ofNat (n / Nat.pow 16 k))

def codeEscape (n : Nat) : List Char :=
  if n < 0x100 then '\\' :: 'x' :: hexDigits 2 n
  else if n < 0x10000 then '\\' :: 'u' :: hexDigits 4 n
  else '\\' :: 'U' :: hexDigits 8 n

def quotedChar (quote c : Char) : List Char :=
  if c = quote ∨ c = '\\' then ['\\', c]
  else if c = '\n' then ['\\', 'n']
  else if c = '\r' then ['\\', 'r']
  else if c = '\t' then ['\\', 't']
  else if isPrintable c then [c]
  else codeEscape c.toNat

def quotedCode (quote : Char) (n : Nat) : List Char :=
  if Nat.isValidChar n then quotedChar quote (Char.ofNat n) else codeEscape n

def quotedCodes (codes : List Nat) : List Char :=
  let quote := if codes.contains '\''.toNat && !codes.contains '"'.toNat then '"' else '\''
  quote :: codes.flatMap (quotedCode quote) ++ [quote]

def quoted (text : List Char) : List Char :=
  quotedCodes (text.map Char.toNat)

def asciiOnly (text : List Char) : List Char :=
  text.flatMap fun c => if c.toNat < 128 then [c] else codeEscape c.toNat

end OnAir.Text

namespace OnAir

def quoted (s : String) : String :=
  String.ofList (Text.quoted s.toList)

end OnAir
