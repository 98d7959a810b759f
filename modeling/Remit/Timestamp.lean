import Remit.Calendar
import Remit.Error

/-!
# Timestamps

A moment in universal time to the second, as requests carry it.
-/

namespace Remit.Moment

/-- The first second after the year 9999, counted from the start of year 1. -/
def endOfTime : Nat := Date.daysOfYears 9999 * 86400

/-- The text of the second that begins `seconds` after the start of year 1. The year is not padded. -/
def timestampOf (seconds : Nat) : Text :=
  let day := Date.ofDays (seconds / 86400)
  let time := seconds % 86400
  let pair := Text.decimalPadded 2
  Text.ofNat day.year ++ "-" ++ pair day.month ++ "-" ++ pair day.day ++ "T" ++ pair (time / 3600) ++ ":" ++
    pair (time / 60 % 60) ++ ":" ++ pair (time % 60) ++ "Z"

/-- The moment in universal time, without the fraction of its second. It has to fall into the years 1 to 9999. -/
def timestamp (m : Moment) : Except Error Text :=
  match m.utcSeconds with
  | .ofNat seconds => if seconds < endOfTime then .ok (timestampOf seconds) else .error .timeOutOfRange
  | .negSucc _ => .error .timeOutOfRange

end Remit.Moment
