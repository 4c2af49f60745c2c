import OnAir.Number.Double

/-!
# JSON values

Integers and doubles are different values, objects keep the order in which their keys first came,
and strings and keys are raw text, for a document may name half of a surrogate pair.
-/

namespace OnAir

inductive Json
  | null
  | bool (b : Bool)
  | int (n : Int)
  | float (x : Double)
  | str (s : RawText)
  | arr (items : List Json)
  | obj (fields : List (RawText × Json))
  deriving Repr, Inhabited

namespace Json

def put (fields : List (RawText × Json)) (key : RawText) (value : Json) :
    List (RawText × Json) :=
  match fields with
  | [] => [(key, value)]
  | field :: rest => if field.1 = key then (key, value) :: rest else field :: put rest key value

/-- The object of a list of members; of several with one key the last counts. -/
def object (members : List (RawText × Json)) : Json :=
  .obj (members.foldl (fun fields (key, value) => put fields key value) [])

def get? (key : String) : Json → Option Json
  | .obj fields => fields.lookup (.text key)
  | _ => none

def str? : Json → Option String
  | .str s => s.text?
  | _ => none

def isTruthy : Json → Bool
  | .null => false
  | .bool b => b
  | .int n => n ≠ 0
  | .float x => x.isTruthy
  | .str s => !s.isEmpty
  | .arr items => !items.isEmpty
  | .obj fields => !fields.isEmpty

end Json
end OnAir
