import OnAir.Json.Basic

/-!
# Checking values before they are written

A writer refuses what it cannot spell: some integers, some strings, containers that nest too deep.
Writers differ in what they refuse and agree in the order, which is that of the text: the first
offence counts.
-/

namespace OnAir.Json

structure Limits (ε : Type) where
  integer : Int → Except ε Unit
  string : RawText → Except ε Unit
  tooDeep : ε

variable {ε : Type}

mutual

/-- Checks the integers and strings of a value, and that containers nest at most `depth` deep. -/
def check (limits : Limits ε) (depth : Nat) : Json → Except ε Unit
  | .int n => limits.integer n
  | .str s => limits.string s
  | .arr items =>
    if depth = 0 then .error limits.tooDeep else checkItems limits (depth - 1) items
  | .obj fields =>
    if depth = 0 then .error limits.tooDeep else checkFields limits (depth - 1) fields
  | _ => .ok ()

def checkItems (limits : Limits ε) (depth : Nat) : List Json → Except ε Unit
  | [] => .ok ()
  | item :: rest => do check limits depth item; checkItems limits depth rest

def checkFields (limits : Limits ε) (depth : Nat) : List (RawText × Json) → Except ε Unit
  | [] => .ok ()
  | (key, value) :: rest => do
    limits.string key
    check limits depth value
    checkFields limits depth rest

end

end OnAir.Json
