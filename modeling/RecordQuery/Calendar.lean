import RecordQuery.Text.Numeral

/-
  Dates, times of day and timestamps of the proleptic
  Gregorian calendar.

  Key definitions include:
    * `RecordQuery.Date`
    * `RecordQuery.TimeOfDay`
    * `RecordQuery.Timestamp`
    * `RecordQuery.ZonedTimestamp`
    * `RecordQuery.ZonedTimestamp.instant`

  A zoned timestamp keeps the wall clock that was given for
  it, but is compared as an instant.
-/

------------------------------------------------------------
-- Types
------------------------------------------------------------

namespace RecordQuery

/- A day of the calendar; years before 1 are not positive. -/
structure Date where
  year : Int
  month : Nat
  day : Nat
  deriving DecidableEq, Repr

/- A time of day to the nanosecond. -/
structure TimeOfDay where
  hour : Nat
  minute : Nat
  second : Nat
  nanosecond : Nat
  deriving DecidableEq, Repr

/- A date and a time of day in no particular zone. -/
structure Timestamp where
  date : Date
  time : TimeOfDay
  deriving DecidableEq, Repr

/-
  A timestamp read off a clock that is `offset` seconds
  ahead of universal time.
-/
structure ZonedTimestamp where
  wall : Timestamp
  offset : Int
  deriving DecidableEq, Repr

end RecordQuery

------------------------------------------------------------
-- Instants
------------------------------------------------------------

namespace RecordQuery

/-
  The number of days since 1 January 1970.  Years are taken
  to begin in March, so that the leap day comes last, and
  are counted within their cycle of 400 years.
-/
def Date.dayNumber
    (d : Date) :
    Int :=
  let year := if d.month ≤ 2 then d.year - 1 else d.year
  let cycle := Int.fdiv year 400
  let yearOfCycle := year - cycle * 400
  let month := (d.month + 9) % 12
  let dayOfYear := (153 * month + 2) / 5 + d.day - 1
  cycle * 146097 + yearOfCycle * 365 +
    Int.fdiv yearOfCycle 4 - Int.fdiv yearOfCycle 100 +
    dayOfYear - 719468

/- The number of nanoseconds since midnight. -/
def TimeOfDay.nanoseconds
    (t : TimeOfDay) :
    Nat :=
  ((t.hour * 60 + t.minute) * 60 + t.second) *
    1000000000 + t.nanosecond

/- The nanoseconds since 1970 that the wall clock shows. -/
def Timestamp.nanoseconds
    (t : Timestamp) :
    Int :=
  t.date.dayNumber * 86400 * 1000000000 +
    t.time.nanoseconds

/- The nanoseconds since the start of 1970 in UTC. -/
def ZonedTimestamp.instant
    (t : ZonedTimestamp) :
    Int :=
  t.wall.nanoseconds - t.offset * 1000000000

/- Whether two zoned timestamps are the same instant. -/
def ZonedTimestamp.agrees
    (t u : ZonedTimestamp) :
    Bool :=
  t.instant == u.instant

end RecordQuery

------------------------------------------------------------
-- Text
------------------------------------------------------------

namespace RecordQuery

open Text

/- Year, month and day, with a sign for negative years. -/
def Date.text
    (d : Date) :
    String :=
  (if d.year < 0 then "-" else "") ++
    padded 4 d.year.natAbs ++ "-" ++
    padded 2 d.month ++ "-" ++ padded 2 d.day

/-
  A fraction of a second in nanoseconds, without trailing
  zeros after its first digit.
-/
def fractionText
    (nanosecond : Nat) :
    String :=
  match paddedDigits 9 nanosecond with
  | [] => ""
  | first :: rest =>
      String.ofList
        (first ::
          (rest.reverse.dropWhile (· == '0')).reverse)

/- The hour is not padded, minute and second are. -/
def TimeOfDay.text
    (t : TimeOfDay) :
    String :=
  natural t.hour ++ ":" ++ padded 2 t.minute ++ ":" ++
    padded 2 t.second ++ "." ++ fractionText t.nanosecond

/- The date, a space and the time of day. -/
def Timestamp.text
    (t : Timestamp) :
    String :=
  t.date.text ++ " " ++ t.time.text

/- The hours, minutes and seconds of an offset. -/
def offsetText
    (offset : Int) :
    String :=
  let seconds := offset.natAbs
  (if offset < 0 then "-" else "+") ++
    padded 2 (seconds / 3600) ++ ":" ++
    padded 2 (seconds / 60 % 60) ++ ":" ++
    padded 2 (seconds % 60)

/- The wall clock, a space and the offset. -/
def ZonedTimestamp.text
    (t : ZonedTimestamp) :
    String :=
  t.wall.text ++ " " ++ offsetText t.offset

end RecordQuery
