import OnAir.Json.Basic

/-!
# Integers in JSON values

A lifetime or a status may be stored as any value. Integers and booleans count as they are, doubles
lose their fraction, and strings are read as text; everything else is refused.
-/

namespace OnAir.Json

inductive IntegerError
  | unreadable (e : Integer.ReadError)
  | notNumber
  | infinite
  | wrongKind (kind : String)
  deriving DecidableEq, Repr

def IntegerError.message : IntegerError → String
  | .unreadable e => e.message
  | .notNumber => "cannot convert float NaN to integer"
  | .infinite => "cannot convert float infinity to integer"
  | .wrongKind kind =>
    "int() argument must be a string, a bytes-like object or a real number, not '" ++ kind ++ "'"

def IntegerError.name : IntegerError → String
  | .unreadable _ | .notNumber => "ValueError"
  | .infinite => "OverflowError"
  | .wrongKind _ => "TypeError"

def kind : Json → String
  | .null => "NoneType"
  | .bool _ => "bool"
  | .int _ => "int"
  | .float _ => "float"
  | .str _ => "str"
  | .arr _ => "list"
  | .obj _ => "dict"

def toInteger : Json → Except IntegerError Int
  | .int n => .ok n
  | .bool b => .ok (if b then 1 else 0)
  | .float .nan => .error .notNumber
  | .float (.infinite _) => .error .infinite
  | .float x => .ok x.truncate
  | .str (.text s) => (Integer.read s.toList).mapError .unreadable
  | .str broken => .error (.unreadable (.notInteger broken))
  | value => .error (.wrongKind value.kind)

end OnAir.Json
