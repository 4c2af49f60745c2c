/-!
# Cutting texts

Every format of the library cuts its texts at single delimiters: at the first, at the last, or at
all of them. The cuts work on lists of any kind, so the same functions serve characters and bytes.
-/

namespace OnAir.Text

variable {α : Type}

def dropTail (p : α → Bool) (text : List α) : List α :=
  (text.reverse.dropWhile p).reverse

variable [DecidableEq α]

def cutFirst? (sep : α) : List α → Option (List α × List α)
  | [] => none
  | c :: rest =>
    if c = sep then some ([], rest)
    else (cutFirst? sep rest).map fun (before, after) => (c :: before, after)

def cutLast? (sep : α) : List α → Option (List α × List α)
  | [] => none
  | c :: rest =>
    match cutLast? sep rest with
    | some (before, after) => some (c :: before, after)
    | none => if c = sep then some ([], rest) else none

/-- The pieces between the occurrences of `sep`; there is one more of them than of `sep`. -/
def pieces (sep : α) : List α → List (List α)
  | [] => [[]]
  | c :: rest =>
    if c = sep then [] :: pieces sep rest
    else match pieces sep rest with
      | piece :: more => (c :: piece) :: more
      | [] => [[c]]

def after? : List α → List α → Option (List α)
  | [], text => some text
  | l :: lead, c :: text => if l = c then after? lead text else none
  | _ :: _, [] => none

def before? (ending text : List α) : Option (List α) :=
  (after? ending.reverse text.reverse).map List.reverse

end OnAir.Text
