import OnAir.Log
import OnAir.Log.Markup
import OnAir.Number.Integer
import OnAir.Text.Quoted

/-!
# Layouts of log lines

A layout is a text with fields in braces, which stand for what a line tells, and colour marks, which
are left out of plain text. A brace written twice is a brace. Behind an exclamation mark a field
says which text of a value is meant, behind a colon how wide it is written; that may hold fields in
turn, one level deep. The name of the worker is part of the layout, so it may hold fields and marks.
-/

namespace OnAir.Log

-- -----------------------------------------------------------------------------
-- Reading layouts
-- -----------------------------------------------------------------------------

structure Field where
  name : List Char
  conversion : Option Char
  form : List Char
  deriving DecidableEq, Repr

inductive Piece
  | text (t : List Char)
  | field (f : Field)
  deriving DecidableEq, Repr

/-- The name of a field, the character that ends it, and the text after that. Within square
brackets nothing ends it. -/
def Field.name? (inBrackets : Bool) : List Char → Option (List Char × Char × List Char)
  | [] => none
  | c :: rest =>
    if inBrackets then
      (name? (c ≠ ']') rest).map fun (name, stop, rest) => (c :: name, stop, rest)
    else if c = '{' then none
    else if c = '}' ∨ c = ':' ∨ c = '!' then some ([], c, rest)
    else (name? (c = '[') rest).map fun (name, stop, rest) => (c :: name, stop, rest)

/-- The text up to the brace that closes `depth` braces more than are opened, and the text after
it. -/
def Field.form? (depth : Nat) : List Char → Option (List Char × List Char)
  | [] => none
  | c :: rest =>
    if c = '}' ∧ depth ≤ 1 then some ([], rest)
    else
      let depth := if c = '\x7b' then depth + 1 else if c = '}' then depth - 1 else depth
      (form? depth rest).map fun (form, rest) => (c :: form, rest)

def Field.read? (text : List Char) : Option (Field × List Char) := do
  match ← Field.name? false text with
  | (name, '}', rest) => return (⟨name, none, []⟩, rest)
  | (name, ':', rest) =>
    let (form, rest) ← Field.form? 1 rest
    return (⟨name, none, form⟩, rest)
  | (name, _, conversion :: '}' :: rest) => return (⟨name, some conversion, []⟩, rest)
  | (name, _, conversion :: ':' :: rest) =>
    let (form, rest) ← Field.form? 1 rest
    return (⟨name, some conversion, form⟩, rest)
  | _ => none

theorem Field.length_name? {inBrackets : Bool} {text name rest : List Char} {stop : Char}
    (h : Field.name? inBrackets text = some (name, stop, rest)) : rest.length < text.length := by
  fun_induction Field.name? inBrackets text generalizing name stop rest <;>
    grind [Option.map_eq_some_iff]

theorem Field.length_form? {depth : Nat} {text form rest : List Char}
    (h : Field.form? depth text = some (form, rest)) : rest.length < text.length := by
  fun_induction Field.form? depth text generalizing form rest <;>
    grind [Option.map_eq_some_iff]

theorem Field.length_read? {text rest : List Char} {field : Field}
    (h : Field.read? text = some (field, rest)) : rest.length < text.length := by
  unfold Field.read? at h
  simp only [bind, Option.bind_eq_some_iff] at h
  obtain ⟨⟨name, stop, after⟩, hname, h⟩ := h
  have := Field.length_name? hname
  have {depth : Nat} {text form rest : List Char} (h : form? depth text = some (form, rest)) :=
    Field.length_form? h
  split at h <;> simp_all [pure, Option.bind_eq_some_iff] <;> grind

def pieces? (text : List Char) : Option (List Piece) :=
  let plain := text.takeWhile fun c => c ≠ '{' ∧ c ≠ '}'
  match h : text.dropWhile fun c => c ≠ '{' ∧ c ≠ '}' with
  | [] => some [.text plain]
  | '{' :: '{' :: rest => (pieces? rest).map (.text (plain ++ ['{']) :: ·)
  | '}' :: '}' :: rest => (pieces? rest).map (.text (plain ++ ['}']) :: ·)
  | '{' :: rest =>
    match hf : Field.read? rest with
    | some (field, rest) => (pieces? rest).map ([.text plain, .field field] ++ ·)
    | none => none
  | _ => none
termination_by text.length
decreasing_by
  all_goals
    have hdrop := (List.dropWhile_sublist (l := text) fun c => c ≠ '{' ∧ c ≠ '}').length_le
    simp only [h, List.length_cons] at hdrop
  · omega
  · omega
  · exact Nat.lt_trans (Field.length_read? hf) hdrop

/-- Whether the pieces of a text can be read, and those of the forms within, down to a depth. -/
def isReadable : Nat → List Char → Bool
  | 0, _ => false
  | depth + 1, text => (pieces? text).any fun pieces => pieces.all fun
    | .text _ => true
    | .field f => isReadable depth f.form

/-- The layout of a text: its pieces without marks, if all stretches that are begun end too. -/
def layout? (text : String) : Option (List Piece) := do
  let pieces ← pieces? text.toList
  let (done, opened) ← pieces.foldlM (fun (done, opened) piece => match piece with
    | .text t => (unmarked? opened t).map fun (t, opened) => (.text t :: done, opened)
    | .field f => if isReadable 2 f.form then some (.field f :: done, opened) else none) ([], [])
  if opened = [] then some done.reverse else none

-- -----------------------------------------------------------------------------
-- Filling layouts
-- -----------------------------------------------------------------------------

/-- What a field can stand for: a text, a number, or a thing that has a text of its own for
messages. -/
inductive Value
  | text (t : List Char)
  | number (n : Nat)
  | thing (plain : Option (List Char)) (shown : List Char)
  deriving DecidableEq, Repr

structure Record where
  time : String
  place : String
  entry : Entry

def Record.value? (r : Record) (name : List Char) : Option Value :=
  let level := r.entry.level
  match String.ofList name with
  | "time" => some (.text r.time.toList)
  | "place" => some (.text r.place.toList)
  | "message" => some (.text r.entry.message.toList)
  | "level" => some (.thing (some level.name.toList)
      ("(name=" ++ quoted level.name ++ ", no=" ++ toString level.weight ++ ", icon="
        ++ quoted level.icon ++ ")").toList)
  | "level.name" => some (.text level.name.toList)
  | "level.no" => some (.number level.weight)
  | "level.icon" => some (.text level.icon.toList)
  | "exception" => some (.text [])
  | "extra" => some (.thing none ['{', '}'])
  | _ => none

/-- The value as a conversion wants it: as text, or as text in quotes, beyond ASCII or within. -/
def Value.converted? (v : Value) (conversion : Char) : Option Value :=
  let whole := match v with
    | .text t => t
    | .number n => Integer.natText n
    | .thing _ shown => shown
  let shown := match v with
    | .text t => (quoted (String.ofList t)).toList
    | _ => whole
  match conversion with
  | 's' => some (.text whole)
  | 'r' => some (.text shown)
  | 'a' => some (.text (Text.asciiOnly shown))
  | _ => none

/-- How a value is written: what fills it up, where it stands, whether the sign is always written,
how wide it is, and how much of it is kept. -/
structure Form where
  fill : Char
  place : Option Char
  sign : Option Char
  zero : Bool
  width : Nat
  kept : Option Nat
  kind : Option Char
  deriving DecidableEq, Repr

def isPlace (c : Char) : Bool :=
  c == '<' || c == '>' || c == '^' || c == '='

def Form.read? (text : List Char) : Option Form := do
  let (fill, place, rest) := match text with
    | [] => (none, none, text)
    | a :: b :: more =>
      if isPlace b then (some a, some b, more)
      else if isPlace a then (none, some a, b :: more) else (none, none, text)
    | [a] => if isPlace a then (none, some a, []) else (none, none, text)
  let (sign, rest) := match rest with
    | c :: more => if c = '+' ∨ c = '-' ∨ c = ' ' then (some c, more) else (none, rest)
    | [] => (none, rest)
  let (zero, rest) := match rest with
    | '0' :: more => (true, more)
    | _ => (false, rest)
  let digits := rest.takeWhile fun c => (Text.digit? c).isSome
  let rest := rest.drop digits.length
  let (kept, rest) ← match rest with
    | '.' :: more =>
      let digits := more.takeWhile fun c => (Text.digit? c).isSome
      (value? digits).map fun n => (some n, more.drop digits.length)
    | _ => some (none, rest)
  let kind ← match rest with
    | [] => some none
    | [c] => some (some c)
    | _ => none
  return ⟨fill.getD (if zero then '0' else ' '), place, sign, zero, (value? digits).getD 0, kept,
    kind⟩

/-- A text filled up to a width; in the middle the left half is the smaller one. -/
def filled (fill : Char) (width : Nat) (place : Char) (text : List Char) : List Char :=
  let missing := width - text.length
  let left := if place = '<' then 0 else if place = '^' then missing / 2 else missing
  List.replicate left fill ++ text ++ List.replicate (missing - left) fill

/-- A value in a form. Texts have no sign, and only texts are cut. -/
def Value.written? (v : Value) (form : List Char) : Option (List Char) :=
  let textIn (t : List Char) : Option (List Char) := do
    let f ← Form.read? form
    if f.sign.isSome ∨ f.place = some '=' ∨ f.kind.any (· ≠ 's') then none
    else return filled f.fill f.width (f.place.getD '<') (t.take (f.kept.getD t.length))
  match v with
  | .text t => textIn t
  | .thing (some plain) _ => textIn plain
  | .thing none shown => if form = [] then some shown else none
  | .number n => do
    let f ← Form.read? form
    let sign := match f.sign with
      | some '+' => ['+']
      | some ' ' => [' ']
      | _ => []
    let place := f.place.getD (if f.zero then '=' else '>')
    if f.kept.isSome ∨ f.kind.any (· ≠ 'd') then none
    else if place = '=' then
      return sign ++ filled f.fill (f.width - sign.length) '>' (Integer.natText n)
    else return filled f.fill f.width place (sign ++ Integer.natText n)

/-- A field filled in; the fields in its form are filled in first. -/
def Record.fieldText? (r : Record) : Nat → Field → Option (List Char)
  | 0, _ => none
  | depth + 1, f => do
    let form ← (← pieces? f.form).mapM fun piece => match piece with
      | Piece.text t => some t
      | Piece.field g => r.fieldText? depth g
    let value ← r.value? f.name
    let value ← match f.conversion with
      | some conversion => value.converted? conversion
      | none => some value
    value.written? form.flatten

def Record.line? (r : Record) (layout : List Piece) : Option String :=
  let texts := layout.mapM fun
    | Piece.text t => some t
    | Piece.field f => r.fieldText? 2 f
  texts.map fun texts => String.ofList texts.flatten

-- -----------------------------------------------------------------------------
-- Lines
-- -----------------------------------------------------------------------------

inductive Error
  | layout
  | level (name : String)
  deriving DecidableEq, Repr

def Error.message : Error → String
  | .layout => "Invalid format, color markups could not be parsed correctly"
  | .level name => "Level '" ++ name ++ "' does not exist"

def Level.read (name : String) : Except Error Level :=
  match Level.all.find? (·.name = name) with
  | some level => .ok level
  | none => .error (.level name)

/-- The layout of a worker's lines: the worker, the time, the level, the place a line comes from,
and the message. -/
def Worker.layout (worker : Worker) (debugging : Bool) : String :=
  let who := worker.name ++ ":" ++ worker.build
  (if debugging then
    "<yellow>" ++ who ++ "</yellow> | <green>\x7btime\x7d</green> | "
      ++ "<level>\x7blevel: <8\x7d</level> | <cyan>\x7bplace\x7d</cyan> | "
      ++ "<level>\x7bmessage\x7d</level>"
  else who ++ " | \x7btime\x7d | \x7blevel: <8\x7d | \x7bplace\x7d | \x7bmessage\x7d")
    ++ "\n\x7bexception\x7d"

def threshold (debugging : Bool) : Level :=
  if debugging then .debug else .info

/-- What is written for messages under the names of their levels. A line with a field that cannot be
filled in is left out. -/
def written (worker : Worker) (debugging : Bool) (time place : String)
    (messages : List (String × String)) : Except Error String := do
  match layout? (worker.layout debugging) with
  | none => throw .layout
  | some layout =>
    let entries ← messages.mapM fun (name, message) =>
      return Entry.mk (← Level.read name) message
    return "".intercalate
      ((entries.filter fun e => (threshold debugging).weight ≤ e.level.weight).filterMap
        fun entry => Record.line? ⟨time, place, entry⟩ layout)

end OnAir.Log
