import OnAir.Time.Calendar
import OnAir.Time.Clock

/-!
# Dates in headers

A date as headers spell it: the English names of the day and the month, and universal time. Years
beyond four digits are written out; those below are filled up with blanks.
-/

namespace OnAir

namespace Calendar

def dayNames : List String := ["Mon", "Tue", "Wed", "Thu", "Fri", "Sat", "Sun"]

def monthNames : List String :=
  ["Jan", "Feb", "Mar", "Apr", "May", "Jun", "Jul", "Aug", "Sep", "Oct", "Nov", "Dec"]

def padLeft (fill : Char) (width : Nat) (text : List Char) : String :=
  String.ofList (List.replicate (width - text.length) fill ++ text)

def twoDigits (n : Nat) : String :=
  padLeft '0' 2 (Integer.natText n)

def Date.httpText (d : Date) : String :=
  dayNames.getD d.weekday "" ++ ", " ++ twoDigits d.day ++ " " ++ monthNames.getD (d.month - 1) ""
    ++ " " ++ padLeft ' ' 4 (Integer.text d.year) ++ " " ++ twoDigits d.hour ++ ":"
    ++ twoDigits d.minute ++ ":" ++ twoDigits d.second ++ " GMT"

/-- The first second of which the year, counted from 1900, still fits into 31 bits and a sign. -/
def yearFloor : Int := -67768040609740800

end Calendar

/-- The date of a clock reading, unless its year is out of all range. -/
def Instant.date (t : Instant) : Except Calendar.RangeError Calendar.Date :=
  let seconds := (Instant.seconds t).floor
  if Calendar.yearFloor ≤ seconds ∧ seconds < Calendar.yearLimit then
    .ok (Calendar.ofSeconds seconds)
  else if -Nat.pow 2 63 ≤ seconds ∧ seconds < Nat.pow 2 63 then .error .tooLarge
  else .error .beyondCounter

end OnAir
