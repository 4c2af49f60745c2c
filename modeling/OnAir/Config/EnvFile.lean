import OnAir.Text.Blank

/-!
# Environment files

A file of `NAME=value` lines. Values may be quoted and may then span lines; unquoted ones end at a
comment or at the end of the line. A line that cannot be read is left out and reading goes on with
the next one. Values refer to earlier ones, and to the process environment, by `${NAME}`.
-/

namespace OnAir.EnvFile

open Text (isBlank)

abbrev Binding := String × Option String

/-- A scanner takes something off the front of a text. If it fails, it tells where it stood. -/
abbrev Scan (α : Type) := Except (List Char) (α × List Char)

def isInlineBlank (c : Char) : Bool :=
  isBlank c && c != '\n' && c != '\r'

def unifyLineEnds : List Char → List Char
  | '\r' :: '\n' :: rest => '\n' :: unifyLineEnds rest
  | '\r' :: rest => '\n' :: unifyLineEnds rest
  | c :: rest => c :: unifyLineEnds rest
  | [] => []

/-- Skips the word `export` and the blanks after it; it needs at least one. -/
def skipExport (text : List Char) : List Char :=
  match Text.after? "export".toList text with
  | some rest =>
    let after := rest.dropWhile isInlineBlank
    if after.length < rest.length then after else text
  | none => text

def scanName (text : List Char) : Scan (Option (List Char)) :=
  match text with
  | '#' :: _ => .ok (none, text)
  | '\'' :: rest =>
    match Text.cutFirst? '\'' rest with
    | some (c :: name, after) => .ok (some (c :: name), after)
    | _ => .error text
  | _ =>
    let isName := fun c => c != '=' && c != '#' && !isBlank c
    let name := text.takeWhile isName
    if name = [] then .error text else .ok (some name, text.dropWhile isName)

/-- The text before a closing quote, escapes left as they are. A backslash takes the character after
it along, so that a quote there closes nothing. -/
def quotedSpan? (quote : Char) : List Char → Option (List Char × List Char)
  | [] => none
  | [c] => if c = quote then some ([], []) else none
  | c :: d :: rest =>
    if c = quote then some ([], d :: rest)
    else if c = '\\' then (quotedSpan? quote rest).map fun (body, after) => (c :: d :: body, after)
    else (quotedSpan? quote (d :: rest)).map fun (body, after) => (c :: body, after)

def escaped? (quote c : Char) : Option Char :=
  if c = '\\' ∨ c = '\'' then some c
  else if quote = '\'' then none
  else match c with
    | '"' => some '"'
    | 'a' => some '\x07'
    | 'b' => some '\x08'
    | 'f' => some '\x0c'
    | 'n' => some '\n'
    | 'r' => some '\r'
    | 't' => some '\t'
    | 'v' => some '\x0b'
    | _ => none

/-- Replaces the escapes of a quoted value; other backslashes stand for themselves. -/
def unescape (quote : Char) : List Char → List Char
  | '\\' :: c :: rest =>
    match escaped? quote c with
    | some d => d :: unescape quote rest
    | none => '\\' :: unescape quote (c :: rest)
  | c :: rest => c :: unescape quote rest
  | [] => []

/-- Cuts a comment off an unquoted value: a number sign after a blank, and all from that blank
on. -/
def cutComment : List Char → List Char
  | [] => []
  | c :: rest =>
    if isBlank c ∧ (rest.dropWhile isBlank).head? = some '#' then []
    else c :: cutComment rest

/-- The value of a line. A comment may follow the blanks after the equals sign, and then the value
is empty. -/
def scanValue (text : List Char) : Scan (List Char) :=
  match text.dropWhile isInlineBlank with
  | [] => .ok ([], text)
  | c :: rest =>
    if c = '\'' ∨ c = '"' then
      match quotedSpan? c rest with
      | some (body, after) => .ok (unescape c body, after)
      | none => .error (c :: rest)
    else
      let line := text.takeWhile (· != '\n')
      .ok (Text.trim (cutComment line), text.dropWhile (· != '\n'))

def scanLineEnd (text : List Char) : Scan Unit :=
  let rest := match text.dropWhile isInlineBlank with
    | '#' :: comment => comment.dropWhile (· != '\n')
    | _ => text
  match rest.dropWhile isInlineBlank with
  | '\n' :: after => .ok ((), after)
  | [] => .ok ((), [])
  | _ => .error rest

def scanBinding (text : List Char) : Except (List Char) (Option Binding × List Char) := do
  let (name, rest) ← scanName (skipExport text)
  let rest := rest.dropWhile isInlineBlank
  let (value, rest) ← match rest with
    | '=' :: after => (scanValue after).map fun (v, r) => (some v, r)
    | _ => .ok (none, rest)
  let ((), rest) ← scanLineEnd rest
  return (name.map fun name => (String.ofList name, value.map String.ofList), rest)

/-- Reads all lines. After a line that cannot be read, reading goes on behind the next line end. -/
def scanAll (text : List Char) : List Binding :=
  match text.dropWhile isBlank with
  | [] => []
  | c :: start =>
    let (binding, rest) := match scanBinding (c :: start) with
      | .ok (binding, rest) => (binding, rest)
      | .error rest => (none, (rest.dropWhile (· != '\n')).drop 1)
    binding.toList ++ if rest.length < text.length then scanAll rest else []
termination_by text.length

-- -----------------------------------------------------------------------------
-- References
-- -----------------------------------------------------------------------------

/-- The reference at the front of a text after its `$\{`: a name, and perhaps a default after
`:-`, up to the closing brace. -/
def reference? (text : List Char) : Option ((List Char × Option (List Char)) × List Char) :=
  let name := text.takeWhile fun c => c != '\x7d' && c != ':'
  match text.drop name.length with
  | '\x7d' :: rest => some ((name, none), rest)
  | ':' :: '-' :: after => (Text.cutFirst? '\x7d' after).map fun (default, rest) =>
    ((name, some default), rest)
  | _ => none

def expand (lookup : String → Option String) : List Char → List Char
  | '$' :: '\x7b' :: after =>
    match reference? after with
    | some ((name, default), rest) =>
      let value := (lookup (String.ofList name)).elim (default.getD []) String.toList
      value ++ if rest.length ≤ after.length then expand lookup rest else []
    | none => '$' :: expand lookup ('\x7b' :: after)
  | c :: text => c :: expand lookup text
  | [] => []
termination_by text => text.length

end OnAir.EnvFile
