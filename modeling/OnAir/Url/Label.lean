import OnAir.Text.Blank
import OnAir.Text.Composition
import OnAir.Text.Joining
import OnAir.Text.Punycode
import OnAir.Text.Quoted
import OnAir.Url.LabelCode

/-!
# Labels of host names

A label of a host name may hold letters of any script. It travels in ASCII, as Punycode behind a
mark of four characters. Which labels are allowed is checked in both directions: a label is
composed, has hyphens only inside, begins with no mark, and holds only characters that are valid
where they stand; and if it has letters that are written from right to left, it has one direction.

Labels are lists of codes, as Punycode may spell codes that are no characters.
-/

namespace OnAir.Url.Label

open Text (Direction direction? combiningClass)

inductive Fault
  | empty
  | tooLong
  | nothingBehindMark
  | hyphenBehindMark
  | malformed
  | notComposed
  | hyphensInside
  | hyphenAtEnd
  | markInFront
  | joiner (code position : Nat) (label : List Nat)
  | misplaced (code position : Nat) (label : List Nat)
  | invalid (code position : Nat) (label : List Nat)
  | unknownDirection (position : Nat) (label : List Nat)
  | firstDirection (label : List Nat)
  | notRightToLeft (position : Nat)
  | notLeftToRight (position : Nat)
  | mixedDigits
  | lastDirection
  deriving DecidableEq, Repr

def codeText (n : Nat) : String :=
  let digits := (Nat.toDigits 16 n).map Char.toUpper
  "U+" ++ String.ofList (List.replicate (4 - digits.length) '0' ++ digits)

def labelText (label : List Nat) : String :=
  String.ofList (Text.quotedCodes label)

def Fault.message : Fault → String
  | .empty => "Empty Label"
  | .tooLong => "Label too long"
  | .nothingBehindMark => "Malformed A-label, no Punycode eligible content found"
  | .hyphenBehindMark => "A-label must not end with a hyphen"
  | .malformed => "Invalid A-label"
  | .notComposed => "Label must be in Normalization Form C"
  | .hyphensInside => "Label has disallowed hyphens in 3rd and 4th position"
  | .hyphenAtEnd => "Label must not start or end with a hyphen"
  | .markInFront => "Label begins with an illegal combining character"
  | .joiner code position label =>
    "Unknown codepoint adjacent to joiner " ++ codeText code ++ " at position "
      ++ toString position ++ " in " ++ labelText label
  | .misplaced code position label =>
    "Codepoint " ++ codeText code ++ " not allowed at position " ++ toString position ++ " in "
      ++ labelText label
  | .invalid code position label =>
    "Codepoint " ++ codeText code ++ " at position " ++ toString position ++ " of "
      ++ labelText label ++ " not allowed"
  | .unknownDirection position label =>
    "Unknown directionality in label " ++ labelText label ++ " at position " ++ toString position
  | .firstDirection label =>
    "First codepoint in label " ++ labelText label ++ " must be directionality L, R or AL"
  | .notRightToLeft position =>
    "Invalid direction for codepoint at position " ++ toString position
      ++ " in a right-to-left label"
  | .notLeftToRight position =>
    "Invalid direction for codepoint at position " ++ toString position
      ++ " in a left-to-right label"
  | .mixedDigits => "Can not mix numeral types in a right-to-left label"
  | .lastDirection => "Label ends with illegal codepoint directionality"

-- -----------------------------------------------------------------------------
-- Neighbours
-- -----------------------------------------------------------------------------

/-- Whether a joiner may stand between two stretches of codes; the one before it is in reverse. It
may follow a mark that kills a vowel, and the one that keeps letters apart may stand between
letters that would join. -/
def joinerFits (joiner : Nat) (before after : List Nat) : Bool :=
  match before with
  | [] => false
  | previous :: _ =>
    let joins (p : Nat → Bool) (codes : List Nat) : Bool :=
      ((codes.dropWhile Text.isTransparent).head?.map p).getD false
    combiningClass previous = 9
      || (joiner = 0x200c && (direction? previous).isSome && joins Text.joinsNext before
        && joins Text.joinsPrevious after)

/-- Whether a code that depends on its neighbours may stand between two stretches of codes, the one
before it in reverse. -/
def contextFits (n : Nat) (before after : List Nat) : Bool :=
  let all := before ++ after
  if n = 0xb7 then before.head? = some 'l'.toNat && after.head? = some 'l'.toNat
  else if n = 0x375 then (after.head?.map Text.greek.has).getD false
  else if n = 0x5f3 ∨ n = 0x5f4 then (before.head?.map Text.hebrew.has).getD false
  else if n = 0x30fb then
    all.any fun m => m ≠ 0x30fb && (Text.hiragana.has m || Text.katakana.has m || Text.han.has m)
  else if 0x660 ≤ n ∧ n ≤ 0x669 then !all.any fun m => 0x6f0 ≤ m && m ≤ 0x6f9
  else !all.any fun m => 0x660 ≤ m && m ≤ 0x669

/-- Checks the codes of a label from a place on; `before` are those in front of it in reverse. -/
def checkCodes (label before : List Nat) : List Nat → Except Fault Unit
  | [] => .ok ()
  | n :: after =>
    let position := before.length + 1
    if isValid n then checkCodes label (n :: before) after
    else if isJoiner n then
      if joinerFits n before after then checkCodes label (n :: before) after
      else .error (.joiner n position label)
    else if contextual.has n then
      if contextFits n before after then checkCodes label (n :: before) after
      else .error (.misplaced n position label)
    else .error (.invalid n position label)

-- -----------------------------------------------------------------------------
-- Direction
-- -----------------------------------------------------------------------------

def directions (label : List Nat) : Except Fault (List Direction) :=
  label.zipIdx.mapM fun (n, place) => match direction? n with
    | some d => .ok d
    | none => .error (.unknownDirection (place + 1) label)

/-- Checks the directions of a label written from right to left, from a place on; `digits` is the
kind of digits that were met. -/
def checkRightToLeft (digits : Option Direction) (position : Nat) :
    List Direction → Except Fault Unit
  | [] => .ok ()
  | d :: rest =>
    if d = .left then .error (.notRightToLeft position)
    else if d = .arabicNumber ∨ d = .europeanNumber then
      match digits with
      | none => checkRightToLeft (some d) (position + 1) rest
      | some other =>
        if other = d then checkRightToLeft digits (position + 1) rest else .error .mixedDigits
    else checkRightToLeft digits (position + 1) rest

def checkLeftToRight (ds : List Direction) : Except Fault Unit :=
  match ds.findIdx? fun d => [.right, .arabic, .arabicNumber].contains d with
  | some place => .error (.notLeftToRight (place + 1))
  | none => .ok ()

/-- Checks that a label has one direction, if anything in it is written from right to left. -/
def checkDirection (label : List Nat) : Except Fault Unit := do
  let ds ← directions label
  if !ds.any fun d => [.right, .arabic, .arabicNumber].contains d then return
  let endings : List Direction ← match ds.head? with
    | some .right | some .arabic => do
      checkRightToLeft none 1 ds
      pure [.right, .arabic, .europeanNumber, .arabicNumber]
    | some .left => do
      checkLeftToRight ds
      pure [.left, .europeanNumber]
    | _ => throw (.firstDirection label)
  match (Text.dropTail (· == .mark) ds).getLast? with
  | some d => if !endings.contains d then throw .lastDirection
  | none => throw .lastDirection

-- -----------------------------------------------------------------------------
-- Labels
-- -----------------------------------------------------------------------------

def check (label : List Nat) : Except Fault Unit := do
  if label = [] then throw .empty
  if 254 < label.length then throw .tooLong
  if !Text.Composition.isComposed label then throw .notComposed
  let hyphen := '-'.toNat
  if (label.drop 2).take 2 = [hyphen, hyphen] then throw .hyphensInside
  if label.head? = some hyphen ∨ label.getLast? = some hyphen then throw .hyphenAtEnd
  if (label.head?.map Text.isMark).getD false then throw .markInFront
  checkCodes label [] label
  checkDirection label

def punycodeMark : List Char := "xn--".toList

def decode (label : List Char) : Except Fault (List Nat) := do
  let label := Text.lower label
  let codes ← match Text.after? punycodeMark label with
    | none => pure (label.map Char.toNat)
    | some [] => throw .nothingBehindMark
    | some rest =>
      if rest.getLast? = some '-' then throw .hyphenBehindMark
      (Punycode.decode rest).mapError fun _ => .malformed
  check codes
  return codes

def encode (label : List Char) : Except Fault (List Char) := do
  let encoded ←
    if label.all (·.toNat < 128) then do
      let _ ← decode label
      pure label
    else do
      check (label.map Char.toNat)
      pure (punycodeMark ++ Punycode.encode (label.map Char.toNat))
  if 63 < encoded.length then throw .tooLong
  return encoded

end OnAir.Url.Label
