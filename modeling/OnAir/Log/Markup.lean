import OnAir.Text.Blank
import OnAir.Text.Digit

/-!
# Colour marks

A text for a terminal marks stretches of itself with a colour or a style: `<red>stop</red>`. Marks
nest, the short form `</>` ends the innermost stretch, and a backslash before a mark makes it text.
Here marks are checked and left out, so that what remains is plain text.
-/

namespace OnAir.Log

def styles : List String := [
  "b", "d", "n", "h", "i", "l", "s", "u", "v", "bold", "dim", "normal", "hide", "italic", "blink",
  "strike", "underline", "reverse"]

/-- The colours, by their short and their long names. A background has its name in capitals. -/
def colours : List String :=
  let plain := ["k", "r", "g", "y", "e", "m", "c", "w"]
  let long := ["black", "red", "green", "yellow", "blue", "magenta", "cyan", "white"]
  plain ++ plain.map ("l" ++ ·) ++ long ++ long.map ("light-" ++ ·)

def value? (digits : List Char) : Option Nat :=
  if digits = [] then none
  else digits.foldl (fun n c => do return (← n) * 10 + (← Text.digit? c)) (some 0)

def isShade (text : List Char) : Bool :=
  (value? text).any (· ≤ 255)

def isColourValue (text : List Char) : Bool :=
  let parts := Text.pieces ',' text
  colours.contains (String.ofList (Text.lower text)) || isShade text
    || (parts.length = 3 && parts.all isShade)
    || match text with
      | '#' :: digits => (digits.length = 3 || digits.length = 6) && digits.all fun c =>
        c.isDigit || ('a' ≤ c.toLower && c.toLower ≤ 'f')
      | _ => false

def isMark (name : List Char) : Bool :=
  let text := String.ofList name
  ["lvl", "level"].contains text || styles.contains text || colours.contains text
    || (colours.map fun c => String.ofList (c.toList.map Char.toUpper)).contains text
    || match name with
      | 'f' :: 'g' :: ' ' :: colour | 'b' :: 'g' :: ' ' :: colour => isColourValue colour
      | _ => false

/-- A mark as it stands in a text: whether it ends a stretch, and its name. -/
structure Mark where
  ends : Bool
  name : List Char
  deriving DecidableEq, Repr

def Mark.text (mark : Mark) : List Char :=
  '<' :: (if mark.ends then ['/'] else []) ++ mark.name ++ ['>']

/-- The mark at the front of what follows an opening angle bracket, and the text after it. Only a
colour of the foreground or the background holds a blank. -/
def mark? (text : List Char) : Option (Mark × List Char) := do
  let (ends, body) := match text with
    | '/' :: body => (true, body)
    | _ => (false, text)
  let (ground, body) := match body with
    | c :: 'g' :: d :: rest =>
      if (c = 'f' ∨ c = 'b') ∧ Text.isBlank d then ([c, 'g', d], rest) else ([], body)
    | _ => ([], body)
  let (name, rest) ← Text.cutFirst? '>' body
  if name.any Text.isBlank then none else return (⟨ends, ground ++ name⟩, rest)

/-- The reading of a text: the plain text up to the last mark, the text since then, and the names
of the stretches that have not ended, the innermost first. -/
structure Reading where
  done : List Char
  since : List Char
  opened : List (List Char)

def Reading.turn? (r : Reading) (mark : Mark) : Option (List (List Char)) :=
  if mark.ends then match r.opened with
    | name :: outer => if mark.name = [] ∨ mark.name = name then some outer else none
    | [] => none
  else if isMark mark.name then some (mark.name :: r.opened)
  else none

/-- Reads on over an opening angle bracket and the text up to the next one. Of the backslashes
before a mark each pair stands for one, and one that is left over makes the mark text. -/
def Reading.step? (r : Reading) (piece : List Char) : Option Reading :=
  match mark? piece with
  | none => some { r with since := r.since ++ '<' :: piece }
  | some (mark, rest) =>
    let body := Text.dropTail (· == '\\') r.since
    let slashes := r.since.length - body.length
    let done := r.done ++ body ++ List.replicate (slashes / 2) '\\'
    if slashes % 2 = 1 then some { r with done := done ++ mark.text, since := rest }
    else (r.turn? mark).map fun opened => ⟨done, rest, opened⟩

/-- The plain text of a text that stands within some stretches, and the stretches that have not
ended at its end. -/
def unmarked? (opened : List (List Char)) (text : List Char) :
    Option (List Char × List (List Char)) :=
  match Text.pieces '<' text with
  | [] => some ([], opened)
  | first :: rest =>
    (rest.foldlM Reading.step? ⟨[], first, opened⟩).map fun r => (r.done ++ r.since, r.opened)

end OnAir.Log
