import OnAir.Url.Label

/-!
# Host names

A host name is a list of labels between dots, of which there are several kinds. A last dot may
follow.
-/

namespace OnAir.Url.HostName

inductive Error
  | tooLong
  | empty
  | label (f : Label.Fault)
  deriving DecidableEq, Repr

def Error.message : Error → String
  | .tooLong => "Domain too long"
  | .empty => "Empty domain"
  | .label f => f.message

def Error.name : Error → String
  | .label (.invalid ..) => "InvalidCodepoint"
  | .label (.misplaced ..) => "InvalidCodepointContext"
  | .label (.unknownDirection ..) | .label (.firstDirection _) | .label (.notRightToLeft _)
  | .label (.notLeftToRight _) | .label .mixedDigits | .label .lastDirection => "IDNABidiError"
  | _ => "IDNAError"

def dots : List Char := ['.', '。', '．', '｡']

def labels (name : List Char) : Except Error (List (List Char) × Bool) := do
  if 254 < name.length then throw .tooLong
  if name = [] then throw .empty
  let labels := Text.pieces '.' (name.map fun c => if dots.contains c then '.' else c)
  if labels.getLast? = some [] then return (labels.dropLast, true) else return (labels, false)

def decode (name : List Char) : Except Error (List (List Nat)) := do
  let (labels, _) ← labels name
  labels.mapM fun label => (Label.decode label).mapError .label

def encode (name : List Char) : Except Error (List Char) := do
  let (labels, closed) ← labels name
  let encoded ← labels.mapM fun label => (Label.encode label).mapError .label
  let name := ['.'].intercalate (encoded ++ if closed then [[]] else [])
  if (if closed then 254 else 253) < name.length then throw .tooLong
  return name

end OnAir.Url.HostName
