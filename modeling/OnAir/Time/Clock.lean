import OnAir.Number.Double

/-!
# Clock readings

Time is counted in whole microseconds since the start of 1970. Cookies and listings see it as a
double in seconds, so what they show is the exact reading after one rounding. Only the years 1 to
9999 have dates.
-/

namespace OnAir

abbrev Instant := Int

namespace Instant

def seconds (t : Instant) : Double :=
  .ofRat (mkRat t 1000000)

def wholeSeconds (t : Instant) : Int :=
  (seconds t).truncate

/-- The reading in milliseconds: the seconds are multiplied by a thousand, rounded once more, and
lose their fraction. -/
def millis (t : Instant) : Int :=
  (Double.ofRat ((seconds t).toRat * 1000)).truncate

-- -----------------------------------------------------------------------------
-- Readings that are dates
-- -----------------------------------------------------------------------------

/-- Why a clock reading is no date: it lies outside the years 1 to 9999, or so far out that its
distance in days has too many digits, or does not even fit into 32 bits. -/
inductive RangeError
  | beyondCalendar
  | beyondSpan (days : Int)
  | beyondWord
  deriving DecidableEq, Repr

def RangeError.message : RangeError → String
  | .beyondCalendar => "date value out of range"
  | .beyondSpan days =>
    "days=" ++ String.ofList (Integer.text days) ++ "; must have magnitude <= 999999999"
  | .beyondWord => "Python int too large to convert to C int"

def earliest : Instant := -62135596800000000

def latest : Instant := 253402300799999999

def dated (t : Instant) : Except RangeError Unit :=
  let days := Int.fdiv t 86400000000
  if days < -2147483648 ∨ 2147483647 < days then .error .beyondWord
  else if days < -999999999 ∨ 999999999 < days then .error (.beyondSpan days)
  else if t < earliest ∨ latest < t then .error .beyondCalendar
  else .ok ()

end Instant
end OnAir
