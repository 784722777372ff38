import CommandDocs.Number.Binary64
import CommandDocs.Text.Basic

/-!
# Instants

Points in time, counted from the beginning of 1970 in universal time, and their
written form in the calendar.
-/

namespace CommandDocs

/-- The first second of the year 1. -/
def firstSecond : Int := -62135596800

/-- The first second of the year 10000. -/
def endSecond : Int := 253402300800

/-- A point in time to the microsecond. Its year is one of the years 1 to 9999 that
the written form has room for. -/
structure Instant where
  /-- Whole seconds since the beginning of 1970. -/
  seconds : Int
  /-- Microseconds behind the whole second. -/
  micros : Fin 1000000 := 0
  /-- The year has a written form. -/
  inCalendar : firstSecond ≤ seconds ∧ seconds < endSecond
  deriving DecidableEq

/-- Why a number of seconds is not an instant. -/
inductive TimeFault where
  /-- It is not a number. -/
  | notANumber
  /-- Its whole seconds do not fit a signed counter of 64 bits. -/
  | uncountable
  /-- Its year does not fit a signed counter of 32 bits that begins at 1900. -/
  | beyondCalendar
  /-- Its year, as a signed number of 32 bits, is not one of the years 1 to 9999. -/
  | year (value : Int)
  deriving DecidableEq

/-- The report about a number of seconds that is not an instant. -/
def TimeFault.message : TimeFault → Text
  | notANumber => "Invalid value NaN (not a number)"
  | uncountable => "timestamp out of range for platform time_t"
  | beyondCalendar => "[Errno 75] Value too large for defined data type"
  | year value => "year " ++ Text.ofInt value ++ " is out of range"

namespace Instant

-- powers are those of the core library, whatever else is imported
attribute [local instance (1100)] instPowNat

/-- The beginning of 1970. -/
def epoch : Instant := ⟨0, 0, by decide⟩

/-- Year, month and day. -/
structure Date where
  /-- The year, which may lie before the first. -/
  year : Int
  /-- The month, from 1 to 12. -/
  month : Nat
  /-- The day of the month, from 1. -/
  day : Nat
  deriving DecidableEq

/-- The date of a day counted from the first of January 1970. Years are taken to
begin in March, so that the leap day is the last of its year; 400 years have the
same number of days, 146097. -/
def dateOfDay (day : Int) : Date :=
  let shifted := day + 719468
  let era := Int.fdiv shifted 146097
  let dayOfEra := (Int.fmod shifted 146097).toNat
  let yearOfEra := (dayOfEra - dayOfEra / 1460 + dayOfEra / 36524 - dayOfEra / 146096) / 365
  let dayOfYear := dayOfEra - (365 * yearOfEra + yearOfEra / 4 - yearOfEra / 100)
  let monthFromMarch := (5 * dayOfYear + 2) / 153
  let month := if monthFromMarch < 10 then monthFromMarch + 3 else monthFromMarch - 9
  let year := era * 400 + yearOfEra
  { year := if month ≤ 2 then year + 1 else year
    month := month
    day := dayOfYear - (153 * monthFromMarch + 2) / 5 + 1 }

/-- The year in which a second lies. -/
def yearOfSecond (seconds : Int) : Int := (dateOfDay (Int.fdiv seconds 86400)).year

/-- The instant of a second and the microseconds behind it. -/
def ofSeconds (seconds : Int) (micros : Fin 1000000 := 0) : Except TimeFault Instant :=
  if h : firstSecond ≤ seconds ∧ seconds < endSecond then .ok ⟨seconds, micros, h⟩
  else if seconds < -2 ^ (63 : Nat) ∨ 2 ^ (63 : Nat) ≤ seconds then .error .uncountable
  else
    let year := yearOfSecond seconds
    if year - 1900 < -2 ^ (31 : Nat) ∨ 2 ^ (31 : Nat) ≤ year - 1900 then .error .beyondCalendar
    else .error (.year (Int.bmod year (2 ^ (32 : Nat))))

/-- The instant of a number of microseconds. -/
def ofMicros (total : Int) : Except TimeFault Instant :=
  ofSeconds (Int.fdiv total 1000000) (Fin.ofNat 1000000 (Int.fmod total 1000000).toNat)

/-- The instant nearest to a number of seconds. Its fractional part is multiplied
by a million as a binary number and then rounded, a half to the even microsecond. -/
def ofBinary : Binary64 → Except TimeFault Instant
  | .nan => .error .notANumber
  | .infinite _ => .error .uncountable
  | .finite negative mantissa exponent _ =>
    let n := mantissa * 2 ^ exponent.toNat
    let d := 2 ^ (-exponent).toNat
    let sign : Int := if negative then -1 else 1
    let micros : Nat := match Binary64.ofRatio false (n % d * 1000000) d with
      | .finite _ m e _ => Binary64.roundQuotient (m * 2 ^ e.toNat) (2 ^ (-e).toNat)
      | _ => 0
    ofMicros (sign * ((n / d * 1000000 + micros : Nat) : Int))

/-- Date and time of day with the offset of universal time. Microseconds are
written only when there are any. -/
def toText (t : Instant) : Text :=
  let date := dateOfDay (Int.fdiv t.seconds 86400)
  let second := (Int.fmod t.seconds 86400).toNat
  let two (n : Nat) : Text := Text.ofNatPadded 2 n
  let fraction : Text := if t.micros = 0 then [] else "." ++ Text.ofNatPadded 6 t.micros.val
  Text.ofNatPadded 4 date.year.toNat ++ "-" ++ two date.month ++ "-" ++ two date.day ++ "T" ++
    two (second / 3600) ++ ":" ++ two (second / 60 % 60) ++ ":" ++ two (second % 60) ++
    fraction ++ "+00:00"

end Instant

end CommandDocs
