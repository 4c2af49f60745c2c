import OnAir.Json.Basic

/-!
# Writing JSON

Compact documents: no blanks, members in their order, characters beyond ASCII as they are. The two
places that write JSON, tokens and answers, differ in how they spell doubles.
-/

namespace OnAir.Json

def stringChar (c : Char) : List Char :=
  if c = '"' ∨ c = '\\' then ['\\', c]
  else if c = '\n' then ['\\', 'n']
  else if c = '\r' then ['\\', 'r']
  else if c = '\t' then ['\\', 't']
  else if c = '\x08' then ['\\', 'b']
  else if c = '\x0c' then ['\\', 'f']
  else if c < ' ' then '\\' :: 'u' :: Text.hexDigits 4 c.toNat
  else [c]

def stringCode (n : Nat) : List Char :=
  if Nat.isValidChar n then stringChar (Char.ofNat n) else '\\' :: 'u' :: Text.hexDigits 4 n

def stringText : RawText → List Char
  | .text s => '"' :: s.toList.flatMap stringChar ++ ['"']
  | .broken codes => '"' :: codes.flatMap stringCode ++ ['"']

mutual

def text (layout : Double.Layout) : Json → List Char
  | .null => "null".toList
  | .bool true => "true".toList
  | .bool false => "false".toList
  | .int n => Integer.text n
  | .float x => x.text layout
  | .str s => stringText s
  | .arr items => '[' :: itemsText layout items ++ [']']
  | .obj fields => '{' :: fieldsText layout fields ++ ['}']

def itemsText (layout : Double.Layout) : List Json → List Char
  | [] => []
  | [item] => text layout item
  | item :: rest => text layout item ++ ',' :: itemsText layout rest

def fieldsText (layout : Double.Layout) : List (RawText × Json) → List Char
  | [] => []
  | [(key, value)] => stringText key ++ ':' :: text layout value
  | (key, value) :: rest =>
    stringText key ++ ':' :: text layout value ++ ',' :: fieldsText layout rest

end

def tokenLayout : Double.Layout :=
  { Double.plain with nan := "NaN", infinity := "Infinity", negativeInfinity := "-Infinity" }

def answerLayout : Double.Layout :=
  ⟨-5, 16, 1, "null", "null", "null"⟩

mutual

def isBroken : Json → Bool
  | .str s => s.text?.isNone
  | .arr items => brokenItems items
  | .obj fields => brokenFields fields
  | _ => false

def brokenItems : List Json → Bool
  | [] => false
  | item :: rest => isBroken item || brokenItems rest

def brokenFields : List (RawText × Json) → Bool
  | [] => false
  | (key, value) :: rest => key.text?.isNone || isBroken value || brokenFields rest

end

def stringCodes (s : RawText) : List Nat :=
  let inner := s.codes.flatMap fun n =>
    if Nat.isValidChar n then (stringChar (Char.ofNat n)).map Char.toNat else [n]
  34 :: inner ++ [34]

mutual

def codes : Json → List Nat
  | .str s => stringCodes s
  | .arr items => 91 :: itemsCodes items ++ [93]
  | .obj fields => 123 :: fieldsCodes fields ++ [125]
  | .null => (text tokenLayout .null).map Char.toNat
  | .bool b => (text tokenLayout (.bool b)).map Char.toNat
  | .int n => (Integer.text n).map Char.toNat
  | .float x => (x.text tokenLayout).map Char.toNat

def itemsCodes : List Json → List Nat
  | [] => []
  | [item] => codes item
  | item :: rest => codes item ++ 44 :: itemsCodes rest

def fieldsCodes : List (RawText × Json) → List Nat
  | [] => []
  | [(key, value)] => stringCodes key ++ 58 :: codes value
  | (key, value) :: rest => stringCodes key ++ 58 :: codes value ++ 44 :: fieldsCodes rest

end

mutual

def shown : Json → List Char
  | .null => "None".toList
  | .bool true => "True".toList
  | .bool false => "False".toList
  | .int n => Integer.text n
  | .float x => x.text Double.plain
  | .str s => s.quoted
  | .arr items => '[' :: shownItems items ++ [']']
  | .obj fields => '{' :: shownFields fields ++ ['}']

def shownItems : List Json → List Char
  | [] => []
  | [item] => shown item
  | item :: rest => shown item ++ ',' :: ' ' :: shownItems rest

def shownFields : List (RawText × Json) → List Char
  | [] => []
  | [(key, value)] => key.quoted ++ ':' :: ' ' :: shown value
  | (key, value) :: rest =>
    key.quoted ++ ':' :: ' ' :: shown value ++ ',' :: ' ' :: shownFields rest

end

def displayed : Json → RawText
  | .str s => s
  | value => String.ofList value.shown

/-- A value in a message; halves of surrogate pairs become U+FFFD. -/
def display (value : Json) : String :=
  value.displayed.filled

end OnAir.Json
