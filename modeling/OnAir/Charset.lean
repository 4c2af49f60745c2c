import OnAir.Charset.Big5
import OnAir.Charset.Escaped
import OnAir.Charset.HongKong
import OnAir.Charset.Iso2022
import OnAir.Charset.Johab
import OnAir.Charset.Page.Desktop
import OnAir.Charset.Page.Mainframe
import OnAir.Charset.Page.Terminal
import OnAir.Charset.Utf7
import OnAir.Text.Punycode
import OnAir.Text.Utf8

/-!
# Character sets

How the bytes of a text stand for characters. Whatever stands for none becomes U+FFFD. Some names
that are in use for character sets mean something else, with which no text can be read.
-/

namespace OnAir

/-- What goes by the name of a character set without being one: a coding of texts as texts, a
coding of bytes as bytes, a set without meaning, and one that does not know U+FFFD. -/
inductive NoCharset
  | ofTexts
  | ofBytes
  | undefined
  | hostNames
  deriving DecidableEq, Repr

/-- A character set. `utf8` may skip a mark; sets with wide units have an order of bytes or begin
with a mark that tells it; `shiftJis` and `big5` have a vendor's form. -/
inductive Charset
  | utf8 (mark : Bool)
  | utf7
  | utf16 (order : Option Charset.ByteOrder)
  | utf32 (order : Option Charset.ByteOrder)
  | page (p : Charset.Page)
  | escaped (raw : Bool)
  | punycode
  | shiftJis (vendor : Bool)
  | eucJp
  | newJis (edition : Charset.NewJis.Edition)
  | newShiftJis (edition : Charset.NewJis.Edition)
  | iso2022 (variant : Charset.Iso2022.Variant)
  | korean (extended : Bool)
  | koreanCombining
  | chinese
  | chineseMarked
  | chineseExtended
  | chineseFull
  | big5 (vendor : Bool)
  | hongKong
  | noCharset (what : NoCharset)
  deriving DecidableEq, Repr

namespace Charset

inductive Error
  | markMissing (width : Nat)
  | beyondAscii (b : UInt8) (position : Nat)
  | noCharset (what : NoCharset)
  | longEscape
  | brokenName
  deriving DecidableEq, Repr

def Error.message : Error → String
  | .markMissing width => "UTF-" ++ toString width ++ " stream does not start with BOM"
  | .beyondAscii b position =>
    "'ascii' codec can't decode byte 0x" ++ String.ofList (Hex.encode [b]) ++ " in position "
      ++ toString position ++ ": ordinal not in range(128)"
  | .noCharset .ofTexts =>
    "descriptor 'translate' for 'str' objects doesn't apply to a 'bytes' object"
  | .noCharset .ofBytes => ""
  | .noCharset .undefined => "undefined encoding"
  | .noCharset .hostNames => "Unsupported error handling replace"
  | .longEscape => "pending buffer overflow"
  | .brokenName => "embedded null character"

def Error.name : Error → String
  | .markMissing _ | .longEscape | .noCharset .undefined | .noCharset .hostNames => "UnicodeError"
  | .beyondAscii _ _ => "UnicodeDecodeError"
  | .noCharset .ofTexts => "TypeError"
  | .noCharset .ofBytes => "AssertionError"
  | .brokenName => "ValueError"

/-- The text of bytes that begin with a mark. Bytes that end before the mark does are nothing. -/
def marked (width : Nat) (reader : ByteOrder → Reader) (bytes : Bytes) :
    Except Error (List Char) :=
  let size := width / 8
  let front := bytes.take size
  let little := 0xff :: 0xfe :: List.replicate (size - 2) 0
  if front = little then .ok ((reader .little).read (bytes.drop size))
  else if front = little.reverse then .ok ((reader .big).read (bytes.drop size))
  else if bytes.length < size then .ok [noCharacter]
  else .error (.markMissing width)

/-- The text of UTF-8 behind a mark, if it has one. The beginning of a mark is no text. -/
def unmarked (bytes : Bytes) : List Char :=
  let mark : Bytes := [0xef, 0xbb, 0xbf]
  if bytes.isPrefixOf mark then []
  else Utf8.decodeLossy ((Text.after? mark bytes).getD bytes)

def ofPunycode (bytes : Bytes) : Except Error (List Char) :=
  let (base, digits) := (Text.cutLast? '-'.toUInt8 bytes).getD ([], bytes)
  match digits.findIdx? (0x80 ≤ ·) with
  | some position => .error (.beyondAscii (digits.getD position 0) position)
  | none =>
    let (codes, _) := Punycode.insertions (some '?'.toNat) .start
      ((Page.ascii.reader.read base).map Char.toNat)
      (digits.map fun b => (Char.ofNat b.toNat).toLower)
    .ok (codes.map fun n => (char? n).getD noCharacter)

def decode (set : Charset) (bytes : Bytes) : Except Error (List Char) :=
  match set with
  | .utf8 mark => .ok (if mark then unmarked bytes else Utf8.decodeLossy bytes)
  | .utf7 => .ok (Utf7.reader.read bytes)
  | .utf16 (some order) => .ok (order.utf16.read bytes)
  | .utf16 none => marked 16 ByteOrder.utf16 bytes
  | .utf32 (some order) => .ok (order.utf32.read bytes)
  | .utf32 none => marked 32 ByteOrder.utf32 bytes
  | .page p => .ok (p.reader.read bytes)
  | .escaped raw => .ok ((Escaped.reader raw).read bytes)
  | .punycode => ofPunycode bytes
  | .shiftJis vendor => .ok ((ShiftJis.reader vendor).read bytes)
  | .eucJp => .ok (EucJp.reader.read bytes)
  | .newJis edition => .ok ((NewJis.wide edition).read bytes)
  | .newShiftJis edition => .ok ((NewJis.shifted edition).read bytes)
  | .iso2022 variant => match (Iso2022.reader variant).readWithin? 8 bytes with
    | some text => .ok text
    | none => .error .longEscape
  | .korean extended => .ok ((if extended then Korean.extended else Korean.reader).read bytes)
  | .koreanCombining => .ok (Johab.reader.read bytes)
  | .chinese => .ok (Gb.reader.read bytes)
  | .chineseMarked => .ok (Gb.marked.read bytes)
  | .chineseExtended => .ok (Gb.extended.read bytes)
  | .chineseFull => .ok (Gb.full.read bytes)
  | .big5 vendor => .ok ((Big5.reader vendor).read bytes)
  | .hongKong => .ok (HongKong.reader.read bytes)
  | .noCharset what => .error (.noCharset what)

end Charset
end OnAir
