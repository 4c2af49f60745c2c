import OnAir.Number.Integer

/-!
# Calendar dates

Whole seconds since the start of 1970 as dates of the calendar now in use, extended to all years.
Dates end with the year 9999; a count of seconds beyond it is refused in one of three ways,
depending on how far out it lies.
-/

namespace OnAir.Calendar

structure Date where
  year : Int
  month : Nat
  day : Nat
  /-- Days since Monday. -/
  weekday : Nat
  hour : Nat
  minute : Nat
  second : Nat
  deriving DecidableEq, Repr

/-- The date of a count of seconds. Years are counted from March on, so that the leap day is the
last day of its year; 400 of them have 146097 days. -/
def ofSeconds (seconds : Int) : Date :=
  let days := seconds.fdiv 86400
  let rest := (seconds.fmod 86400).toNat
  let shifted := days + 719468
  let era := shifted.fdiv 146097
  let dayOfEra := (shifted.fmod 146097).toNat
  let yearOfEra := (dayOfEra - dayOfEra / 1460 + dayOfEra / 36524 - dayOfEra / 146096) / 365
  let dayOfYear := dayOfEra - (365 * yearOfEra + yearOfEra / 4 - yearOfEra / 100)
  let monthFromMarch := (5 * dayOfYear + 2) / 153
  let month := if monthFromMarch < 10 then monthFromMarch + 3 else monthFromMarch - 9
  { year := era * 400 + yearOfEra + (if month ≤ 2 then 1 else 0)
    month
    day := dayOfYear - (153 * monthFromMarch + 2) / 5 + 1
    weekday := ((days + 3).fmod 7).toNat
    hour := rest / 3600
    minute := rest % 3600 / 60
    second := rest % 60 }

inductive RangeError
  | year (shown : Int)
  | tooLarge
  | beyondCounter
  deriving DecidableEq, Repr

def RangeError.message : RangeError → String
  | .year shown => "year " ++ String.ofList (Integer.text shown) ++ " is out of range"
  | .tooLarge => "[Errno 75] Value too large for defined data type"
  | .beyondCounter => "timestamp out of range for platform time_t"

def RangeError.name : RangeError → String
  | .year _ => "ValueError"
  | .tooLarge => "OSError"
  | .beyondCounter => "OverflowError"

def yearLimit : Nat := 67768036191676800

/-- Checks that a count of seconds lies before the year 10000. A year that takes the 32nd bit is
shown as negative. -/
def check (seconds : Nat) : Except RangeError Unit :=
  if Nat.pow 2 63 ≤ seconds then .error .beyondCounter
  else if yearLimit ≤ seconds then .error .tooLarge
  else
    let year := (ofSeconds seconds).year
    if 9999 < year then .error (.year (if Nat.pow 2 31 ≤ year then year - Nat.pow 2 32 else year))
    else .ok ()

end OnAir.Calendar
