import CertifiedAccess.Time.Instant

/-!
How instants and spans are written: a proleptic Gregorian date and a time of day in UTC, and an
ISO 8601 duration in seconds.
-/
namespace CertifiedAccess

/-- The decimal digits of `n`, filled up with zeros to at least `width`. -/
def zeroPadded (width n : Nat) : String :=
  let digits := (Nat.repr n).toList
  String.ofList (List.replicate (width - digits.length) '0' ++ digits)

structure CalendarDate where
  year : Int
  month : Nat
  day : Nat
  deriving DecidableEq

namespace CalendarDate

/-- The date this many days after the first of January 1970. The reckoning starts years in March, so
that a leap day ends its year, and repeats every 400 years of 146097 days. -/
def ofDays (days : Int) : CalendarDate :=
  let shifted := days + 719468
  let era := shifted / 146097
  let dayOfEra := (shifted % 146097).toNat
  let yearOfEra := (dayOfEra - dayOfEra / 1460 + dayOfEra / 36524 - dayOfEra / 146096) / 365
  let dayOfYear := dayOfEra - (365 * yearOfEra + yearOfEra / 4 - yearOfEra / 100)
  let monthFromMarch := (5 * dayOfYear + 2) / 153
  let month := if monthFromMarch < 10 then monthFromMarch + 3 else monthFromMarch - 9
  let year := yearOfEra + era * 400
  ⟨if month ≤ 2 then year + 1 else year, month, dayOfYear - (153 * monthFromMarch + 2) / 5 + 1⟩

/-- Years from 0 to 9999 have four digits; others have a sign before at least four digits. -/
def yearText (year : Int) : String :=
  if 0 ≤ year ∧ year ≤ 9999 then zeroPadded 4 year.toNat
  else (if year < 0 then "-" else "+") ++ zeroPadded 4 year.natAbs

def text (date : CalendarDate) : String :=
  yearText date.year ++ "-" ++ zeroPadded 2 date.month ++ "-" ++ zeroPadded 2 date.day

end CalendarDate

namespace Instant

/-- A fraction of a second with three, six or nine digits, the fewest that are exact; none for zero. -/
def fractionText (nanos : Nat) : String :=
  if nanos = 0 then ""
  else if nanos % 1000000 = 0 then "." ++ zeroPadded 3 (nanos / 1000000)
  else if nanos % 1000 = 0 then "." ++ zeroPadded 6 (nanos / 1000)
  else "." ++ zeroPadded 9 nanos

/-- Date, time of day and zone. The seconds of a leap second are written as 60. -/
def text (t : Instant) : String :=
  let ofDay := (t.seconds % 86400).toNat
  let second := ofDay % 60 + t.nanos / 1000000000
  (CalendarDate.ofDays (t.seconds / 86400)).text ++ " " ++ zeroPadded 2 (ofDay / 3600) ++ ":" ++
    zeroPadded 2 (ofDay / 60 % 60) ++ ":" ++ zeroPadded 2 second ++
    fractionText (t.nanos % 1000000000) ++ " UTC"

end Instant

namespace Span

/-- Nine digits without the zeros at their end. -/
def fractionText (nanos : Nat) : String :=
  let digits := (zeroPadded 9 nanos).toList
  String.ofList (digits.reverse.dropWhile (· == '0')).reverse

/-- `P0D` for no time, else the seconds, with a sign in front when they go back. -/
def text (s : Span) : String :=
  if s.nanos = 0 then "P0D"
  else
    let size := s.nanos.natAbs
    let fraction := if size % 1000000000 = 0 then "" else "." ++ fractionText (size % 1000000000)
    (if s.nanos < 0 then "-" else "") ++ "PT" ++ Nat.repr (size / 1000000000) ++ fraction ++ "S"

end Span
end CertifiedAccess
