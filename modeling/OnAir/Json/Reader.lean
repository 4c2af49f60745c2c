import OnAir.Json.Basic
import OnAir.Text.Encoding

/-!
# Reading JSON

A machine reads the text one token at a time, with the containers still open on a stack. `NaN`,
`Infinity` and `-Infinity` are numbers. An error is a cause and the position, in characters, at
which it shows; integers are held to the digit limit and containers to a depth. Half of a surrogate
pair may stand in a string, either as an escape or as such; only two escapes make a pair.
-/

namespace OnAir.Json

inductive SyntaxProblem
  | expectingValue
  | expectingName
  | expectingColon
  | expectingComma
  | unterminatedString
  | controlCharacter
  | badEscape
  | badCodeEscape
  | extraData
  | byteOrderMark
  deriving DecidableEq, Repr

def SyntaxProblem.message : SyntaxProblem → String
  | .expectingValue => "Expecting value"
  | .expectingName => "Expecting property name enclosed in double quotes"
  | .expectingColon => "Expecting ':' delimiter"
  | .expectingComma => "Expecting ',' delimiter"
  | .unterminatedString => "Unterminated string starting at"
  | .controlCharacter => "Invalid control character at"
  | .badEscape => "Invalid \\escape"
  | .badCodeEscape => "Invalid \\uXXXX escape"
  | .extraData => "Extra data"
  | .byteOrderMark => "Unexpected UTF-8 BOM (decode using utf-8-sig)"

inductive Container
  | array
  | object
  deriving DecidableEq, Repr

def Container.word : Container → String
  | .array => "array"
  | .object => "object"

/-- Why a text is no document. Where containers nest too deep, the first one that is too deep
counts. -/
inductive ReadError
  | malformed (problem : SyntaxProblem) (position : Nat)
  | number (error : Integer.ReadError)
  | tooDeep (container : Container)
  | undecodable
  deriving DecidableEq, Repr

/-- An error while reading: a problem with the text from which it shows on, or one without a
position. -/
inductive Stop
  | at (problem : SyntaxProblem) (text : List Char)
  | number (error : Integer.ReadError)
  | tooDeep (container : Container)

def isSpace (c : Char) : Bool :=
  c == ' ' || c == '\t' || c == '\n' || c == '\r'

-- -----------------------------------------------------------------------------
-- Strings
-- -----------------------------------------------------------------------------

def escaped? : Char → Option Char
  | '"' => some '"'
  | '\\' => some '\\'
  | '/' => some '/'
  | 'b' => some '\x08'
  | 'f' => some '\x0c'
  | 'n' => some '\n'
  | 'r' => some '\r'
  | 't' => some '\t'
  | _ => none

/-- The number of the four hexadecimal digits at the front of a text that goes on after them. -/
def unit? : List Char → Option Nat
  | a :: b :: c :: d :: _ :: _ => do
    let a ← Hex.digit? a
    let b ← Hex.digit? b
    let c ← Hex.digit? c
    let d ← Hex.digit? d
    return ((a.toNat * 16 + b.toNat) * 16 + c.toNat) * 16 + d.toNat
  | _ => none

def isHighHalf (n : Nat) : Bool := 0xd800 ≤ n && n < 0xdc00

def isLowHalf (n : Nat) : Bool := 0xdc00 ≤ n && n < 0xe000

/-- The code of a character before `rest`: a half of a surrogate pair if one is listed there, else
that of the character. -/
def codeAt (halves : List (Nat × Nat)) (c : Char) (rest : List Char) : Nat :=
  if c = '\uFFFD' ∧ halves ≠ [] then (halves.lookup rest.length).getD c.toNat else c.toNat

/-- Reads a string after its opening quote; `start` is the text from that quote on. Two escapes
that form a surrogate pair are one code. -/
def scanString (halves : List (Nat × Nat)) (start : List Char) (text : List Char) :
    Except Stop (List Nat × List Char) :=
  match text with
  | [] => .error (.at .unterminatedString start)
  | c :: rest =>
    if c = '"' then .ok ([], rest)
    else if c = '\\' then
      match rest with
      | [] => .error (.at .unterminatedString start)
      | e :: rest =>
        if e = 'u' then
          match unit? rest with
          | none => .error (.at .badCodeEscape (e :: rest))
          | some n =>
            if isHighHalf n ∧ (rest.drop 4).take 2 = ['\\', 'u'] ∧ rest.drop 10 ≠ [] then
              match unit? (rest.drop 6) with
              | none => .error (.at .badCodeEscape (rest.drop 5))
              | some m =>
                if isLowHalf m then
                  (scanString halves start (rest.drop 10)).map fun (codes, rest) =>
                    ((0x10000 + (n - 0xd800) * 1024 + (m - 0xdc00)) :: codes, rest)
                else
                  (scanString halves start (rest.drop 4)).map fun (codes, rest) =>
                    (n :: codes, rest)
            else (scanString halves start (rest.drop 4)).map fun (codes, rest) => (n :: codes, rest)
        else match escaped? e with
          | none => .error (.at .badEscape (c :: e :: rest))
          | some x =>
            (scanString halves start rest).map fun (codes, rest) => (x.toNat :: codes, rest)
    else if c < ' ' then .error (.at .controlCharacter text)
    else (scanString halves start rest).map fun (codes, after) =>
      (codeAt halves c rest :: codes, after)
termination_by text.length
decreasing_by all_goals (simp only [List.length_drop, List.length_cons]; omega)

theorem map_eq_ok {α β : Type} {f : α → β} {x : Except Stop α} {b : β}
    (h : x.map f = .ok b) : ∃ a, x = .ok a ∧ f a = b := by
  cases x with
  | error e => cases h
  | ok a => exact ⟨a, rfl, by simpa [Except.map] using h⟩

theorem scanString_length {halves : List (Nat × Nat)} {start text rest : List Char}
    {codes : List Nat} (h : scanString halves start text = .ok (codes, rest)) :
    rest.length < text.length := by
  fun_induction scanString halves start text generalizing codes
  all_goals solve
    | (cases h; simp)
    | cases h
    | (obtain ⟨⟨cs, r⟩, hr, he⟩ := map_eq_ok h
       simp only [Prod.mk.injEq] at he
       obtain ⟨_, rfl⟩ := he
       rename_i ih
       have := ih hr
       simp_all only [List.length_drop, List.length_cons]
       omega)

-- -----------------------------------------------------------------------------
-- Numbers
-- -----------------------------------------------------------------------------

def isDigit (c : Char) : Bool := '0' ≤ c && c ≤ '9'

def decimal (digits : List Char) : Nat :=
  Integer.ofDigits (digits.map fun c => c.toNat - 48)

def splitSign : List Char → Bool × List Char
  | '-' :: rest => (true, rest)
  | '+' :: rest => (false, rest)
  | text => (false, text)

/-- The exponent at the front of a text: a letter, perhaps a sign, and digits. Nothing is taken if
the digits are missing. -/
def scanExponent : List Char → Option Int × List Char
  | [] => (none, [])
  | e :: rest =>
    let signed := splitSign rest
    let digits := signed.2.takeWhile isDigit
    if (e = 'e' ∨ e = 'E') ∧ digits ≠ [] then
      let n : Int := decimal digits
      (some (if signed.1 then -n else n), signed.2.dropWhile isDigit)
    else (none, e :: rest)

def scanFraction : List Char → List Char × List Char
  | [] => ([], [])
  | c :: rest =>
    if c = '.' ∧ rest.takeWhile isDigit ≠ [] then (rest.takeWhile isDigit, rest.dropWhile isDigit)
    else ([], c :: rest)

/-- The whole digits at the front of a text: a single zero, or digits that start with no zero. -/
def scanWhole (text : List Char) : List Char × List Char :=
  if text.head? = some '0' then (['0'], text.tail)
  else (text.takeWhile isDigit, text.dropWhile isDigit)

def splitMinus : List Char → Bool × List Char
  | '-' :: rest => (true, rest)
  | text => (false, text)

/-- The value of the parts of a number: an integer unless it has a fraction or an exponent. -/
def numberOf (negative : Bool) (whole fraction : List Char) (exponent : Option Int) :
    Except Stop Json :=
  if fraction = [] ∧ exponent = none then
    if Integer.digitLimit < whole.length then .error (.number (.tooManyDigits whole.length))
    else
      let n : Int := decimal whole
      .ok (.int (if negative then -n else n))
  else
    .ok (.float (Double.ofDecimal negative (decimal (whole ++ fraction))
      (exponent.getD 0 - fraction.length)))

def scanNumber (text : List Char) : Except Stop (Json × List Char) :=
  let signed := splitMinus text
  let whole := scanWhole signed.2
  if whole.1 = [] then .error (.at .expectingValue text)
  else
    let fraction := scanFraction whole.2
    let exponent := scanExponent fraction.2
    (numberOf signed.1 whole.1 fraction.1 exponent.1).map (·, exponent.2)

def wordValues : List (List Char × Json) := [
  ("null".toList, .null), ("true".toList, .bool true), ("false".toList, .bool false),
  ("NaN".toList, .float .nan), ("Infinity".toList, .float (.infinite false)),
  ("-Infinity".toList, .float (.infinite true))]

def scanScalar (text : List Char) : Except Stop (Json × List Char) :=
  match wordValues.findSome? fun (word, value) => (Text.after? word text).map (value, ·) with
  | some result => .ok result
  | none => scanNumber text

-- -----------------------------------------------------------------------------
-- The machine
-- -----------------------------------------------------------------------------

/-- What reading goes by: how deep containers may nest, and which halves of surrogate pairs stand
in the text as such, by the number of characters after them; in the text itself U+FFFD stands in
for them. -/
structure Rules where
  depth : Nat
  halves : List (Nat × Nat)

inductive Frame
  | items (done : List Json)
  | members (done : List (RawText × Json)) (key : RawText)

inductive Expect
  | value
  | firstItem
  | firstName (done : List (RawText × Json))
  | name (done : List (RawText × Json))
  | colon (done : List (RawText × Json)) (key : RawText)
  | after (value : Json)

/-- The state between two tokens. -/
structure Machine where
  stack : List Frame
  expect : Expect

def takeValue (rules : Rules) (stack : List Frame) (c : Char) (rest : List Char) :
    Except Stop (Machine × List Char) :=
  if c = '"' then
    (scanString rules.halves (c :: rest) rest).map fun (codes, rest) =>
      (⟨stack, .after (.str (.ofCodes codes))⟩, rest)
  else if c = '[' then
    if rules.depth ≤ stack.length then .error (.tooDeep .array)
    else .ok (⟨.items [] :: stack, .firstItem⟩, rest)
  else if c = '{' then
    if rules.depth ≤ stack.length then .error (.tooDeep .object)
    else .ok (⟨stack, .firstName []⟩, rest)
  else (scanScalar (c :: rest)).map fun (value, rest) => (⟨stack, .after value⟩, rest)

def takeName (rules : Rules) (stack : List Frame) (done : List (RawText × Json)) (c : Char)
    (rest : List Char) : Except Stop (Machine × List Char) :=
  if c = '"' then
    (scanString rules.halves (c :: rest) rest).map fun (codes, rest) =>
      (⟨stack, .colon done (.ofCodes codes)⟩, rest)
  else .error (.at .expectingName (c :: rest))

def Machine.step (rules : Rules) (m : Machine) (c : Char) (rest : List Char) :
    Except Stop (Machine × List Char) :=
  match m.expect with
  | .value => takeValue rules m.stack c rest
  | .firstItem =>
    match c, m.stack with
    | ']', .items done :: stack => .ok (⟨stack, .after (.arr done.reverse)⟩, rest)
    | _, _ => takeValue rules m.stack c rest
  | .firstName done =>
    if c = '}' then .ok (⟨m.stack, .after (object done.reverse)⟩, rest)
    else takeName rules m.stack done c rest
  | .name done => takeName rules m.stack done c rest
  | .colon done key =>
    if c = ':' then .ok (⟨.members done key :: m.stack, .value⟩, rest)
    else .error (.at .expectingColon (c :: rest))
  | .after value =>
    match m.stack with
    | [] => .error (.at .extraData (c :: rest))
    | .items done :: stack =>
      if c = ',' then .ok (⟨.items (value :: done) :: stack, .value⟩, rest)
      else if c = ']' then .ok (⟨stack, .after (.arr (value :: done).reverse)⟩, rest)
      else .error (.at .expectingComma (c :: rest))
    | .members done key :: stack =>
      if c = ',' then .ok (⟨stack, .name ((key, value) :: done)⟩, rest)
      else if c = '}' then .ok (⟨stack, .after (object ((key, value) :: done).reverse)⟩, rest)
      else .error (.at .expectingComma (c :: rest))

def Machine.finish (m : Machine) : Except Stop Json :=
  match m.expect, m.stack with
  | .after value, [] => .ok value
  | .after _, _ => .error (.at .expectingComma [])
  | .colon _ _, _ => .error (.at .expectingColon [])
  | .firstName _, _ | .name _, _ => .error (.at .expectingName [])
  | .value, _ | .firstItem, _ => .error (.at .expectingValue [])

-- -----------------------------------------------------------------------------
-- Progress
-- -----------------------------------------------------------------------------

private theorem length_dropWhile_le (p : Char → Bool) (text : List Char) :
    (text.dropWhile p).length ≤ text.length :=
  (List.dropWhile_suffix p).length_le

private theorem length_dropWhile_lt {p : Char → Bool} {text : List Char}
    (h : text.takeWhile p ≠ []) : (text.dropWhile p).length < text.length := by
  have hsum : (text.takeWhile p).length + (text.dropWhile p).length = text.length := by
    rw [← List.length_append, List.takeWhile_append_dropWhile]
  have := List.length_pos_iff.mpr h
  omega

private theorem splitSign_length (text : List Char) :
    (splitSign text).2.length ≤ text.length := by
  unfold splitSign
  split <;> simp

private theorem splitMinus_length (text : List Char) :
    (splitMinus text).2.length ≤ text.length := by
  unfold splitMinus
  split <;> simp

private theorem scanWhole_length {text : List Char} (h : (scanWhole text).1 ≠ []) :
    (scanWhole text).2.length < text.length := by
  unfold scanWhole at h ⊢
  split
  · cases text <;> simp_all
  · rw [if_neg ‹_›] at h
    exact length_dropWhile_lt h

private theorem scanFraction_length (text : List Char) :
    (scanFraction text).2.length ≤ text.length := by
  unfold scanFraction
  split
  · simp
  · split
    · exact Nat.le_succ_of_le (length_dropWhile_le isDigit _)
    · simp

private theorem scanExponent_length (text : List Char) :
    (scanExponent text).2.length ≤ text.length := by
  unfold scanExponent
  split
  · simp
  · rename_i e rest
    dsimp only
    split
    · have h1 := length_dropWhile_le isDigit (splitSign rest).2
      have h2 := splitSign_length rest
      simp only [List.length_cons]; omega
    · simp

theorem scanNumber_length {text rest : List Char} {value : Json}
    (h : scanNumber text = .ok (value, rest)) : rest.length < text.length := by
  unfold scanNumber at h
  dsimp only at h
  split at h
  · cases h
  · rename_i hw
    obtain ⟨v, _, he⟩ := map_eq_ok h
    cases he
    have h1 := scanWhole_length hw
    have h2 := splitMinus_length text
    have h3 := scanFraction_length (scanWhole (splitMinus text).2).2
    have h4 := scanExponent_length (scanFraction (scanWhole (splitMinus text).2).2).2
    omega

private theorem after?_length {lead text rest : List Char} (h : Text.after? lead text = some rest) :
    text.length = lead.length + rest.length := by
  induction lead generalizing text with
  | nil => simp_all [Text.after?]
  | cons l lead ih =>
    cases text with
    | nil => simp [Text.after?] at h
    | cons c text =>
      simp only [Text.after?] at h
      split at h
      · have := ih h
        simp only [List.length_cons]; omega
      · cases h

private theorem wordValues_pos : ∀ entry ∈ wordValues, 0 < entry.1.length := by
  decide

theorem scanScalar_length {text rest : List Char} {value : Json}
    (h : scanScalar text = .ok (value, rest)) : rest.length < text.length := by
  unfold scanScalar at h
  split at h
  · rename_i found hf
    cases h
    obtain ⟨entry, hmem, hentry⟩ := List.exists_of_findSome?_eq_some hf
    obtain ⟨r, hr, he⟩ := Option.map_eq_some_iff.mp hentry
    cases he
    have h1 := after?_length hr
    have h2 := wordValues_pos entry hmem
    omega
  · exact scanNumber_length h

private theorem takeValue_length {rules : Rules} {stack : List Frame} {c : Char}
    {rest rest' : List Char} {m : Machine} (h : takeValue rules stack c rest = .ok (m, rest')) :
    rest'.length ≤ rest.length := by
  unfold takeValue at h
  split at h
  · obtain ⟨⟨codes, r⟩, hr, he⟩ := map_eq_ok h
    cases he
    exact Nat.le_of_lt (scanString_length hr)
  · split at h
    · split at h <;> cases h
      exact Nat.le_refl _
    · split at h
      · split at h <;> cases h
        exact Nat.le_refl _
      · obtain ⟨⟨value, r⟩, hr, he⟩ := map_eq_ok h
        cases he
        exact Nat.le_of_lt_succ (scanScalar_length hr)

private theorem takeName_length {rules : Rules} {stack : List Frame}
    {done : List (RawText × Json)} {c : Char} {rest rest' : List Char} {m : Machine}
    (h : takeName rules stack done c rest = .ok (m, rest')) :
    rest'.length ≤ rest.length := by
  unfold takeName at h
  split at h
  · obtain ⟨⟨codes, r⟩, hr, he⟩ := map_eq_ok h
    cases he
    exact Nat.le_of_lt (scanString_length hr)
  · cases h

theorem Machine.step_length {rules : Rules} {m m' : Machine} {c : Char} {rest rest' : List Char}
    (h : m.step rules c rest = .ok (m', rest')) : rest'.length ≤ rest.length := by
  unfold Machine.step at h
  split at h
  · exact takeValue_length h
  · split at h
    · cases h; exact Nat.le_refl _
    · exact takeValue_length h
  · split at h
    · cases h; exact Nat.le_refl _
    · exact takeName_length h
  · exact takeName_length h
  · split at h <;> cases h
    exact Nat.le_refl _
  · split at h
    · cases h
    · split at h
      · cases h; exact Nat.le_refl _
      · split at h <;> cases h
        exact Nat.le_refl _
    · split at h
      · cases h; exact Nat.le_refl _
      · split at h <;> cases h
        exact Nat.le_refl _

-- -----------------------------------------------------------------------------
-- Documents
-- -----------------------------------------------------------------------------

def run (rules : Rules) (m : Machine) (text : List Char) : Except Stop Json :=
  match _hs : text.dropWhile isSpace with
  | [] => m.finish
  | c :: rest =>
    match _h : m.step rules c rest with
    | .error stop => .error stop
    | .ok (m', rest') => run rules m' rest'
termination_by text.length
decreasing_by
  have h1 := Machine.step_length _h
  have h2 := length_dropWhile_le isSpace text
  rw [_hs, List.length_cons] at h2
  omega

def depthLimit : Nat := 960

def readRaw (halves : List (Nat × Nat)) (text : List Char) : Except ReadError Json :=
  match run ⟨depthLimit, halves⟩ ⟨[], .value⟩ text with
  | .ok value => .ok value
  | .error (.at problem rest) => .error (.malformed problem (text.length - rest.length))
  | .error (.number error) => .error (.number error)
  | .error (.tooDeep container) => .error (.tooDeep container)

def read (text : List Char) : Except ReadError Json :=
  if text.head? = some '\uFEFF' then .error (.malformed .byteOrderMark 0) else readRaw [] text

def readBytes (bytes : Bytes) : Except ReadError Json :=
  match Encoding.document? bytes with
  | none => .error .undecodable
  | some (text, halves) => readRaw halves text

end OnAir.Json
