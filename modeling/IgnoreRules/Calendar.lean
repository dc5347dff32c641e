import IgnoreRules.Decimal.Basic

/-!
# Dates and times

Days of the proleptic Gregorian calendar from year 1 to year 9999, and times of a
day with or without an offset from universal time.
-/

namespace IgnoreRules

/-- A day. -/
structure Date where
  year : Nat
  month : Nat
  day : Nat
  deriving DecidableEq, Repr

/-- A time of a day. -/
structure Moment where
  /-- The day. -/
  date : Date
  hour : Nat
  minute : Nat
  second : Nat
  microsecond : Nat
  /-- Minutes ahead of universal time, if known. -/
  offset : Option Int
  deriving DecidableEq, Repr

/-- The year has a leap day. -/
def isLeapYear (year : Nat) : Bool :=
  year % 4 = 0 && (year % 100 ≠ 0 || year % 400 = 0)

/-- How many days a month has. -/
def daysInMonth (year month : Nat) : Nat :=
  if month = 2 then if isLeapYear year then 29 else 28
  else if month = 4 || month = 6 || month = 9 || month = 11 then 30
  else 31

/-- How many minutes a day has. -/
def minutesPerDay : Nat :=
  24 * 60

namespace Date

/-- The day exists. -/
def isValid (date : Date) : Bool :=
  1 ≤ date.year && date.year ≤ 9999 && 1 ≤ date.month && date.month ≤ 12 &&
    1 ≤ date.day && date.day ≤ daysInMonth date.year date.month

/-- The day in the order year, month, day, with dashes. -/
def toText (date : Date) : List Char :=
  Decimal.padded 4 date.year ++ '-' :: Decimal.padded 2 date.month ++
    '-' :: Decimal.padded 2 date.day

/-- How many days there are before the day. -/
def ordinal (date : Date) : Nat :=
  let years := date.year - 1
  let months := (List.range' 1 (date.month - 1)).map (daysInMonth date.year)
  365 * years + years / 4 - years / 100 + years / 400 + months.foldl (· + ·) 0 + date.day - 1

end Date

namespace Moment

/-- The time exists, and its offset is less than a day. -/
def isValid (moment : Moment) : Bool :=
  moment.date.isValid && moment.hour < 24 && moment.minute < 60 && moment.second < 60 &&
    moment.microsecond < 1000000 && moment.offset.all (·.natAbs < minutesPerDay)

/-- Hours, minutes and seconds, with the fraction of a second if there is one. -/
def clockText (moment : Moment) : List Char :=
  Decimal.padded 2 moment.hour ++ ':' :: Decimal.padded 2 moment.minute ++
    ':' :: Decimal.padded 2 moment.second ++
    if moment.microsecond = 0 then [] else '.' :: Decimal.padded 6 moment.microsecond

/-- An offset as a sign, hours and minutes. -/
def offsetText (offset : Int) : List Char :=
  (if offset < 0 then '-' else '+') :: Decimal.padded 2 (offset.natAbs / 60) ++
    ':' :: Decimal.padded 2 (offset.natAbs % 60)

/-- The day and the time, and the offset if it is known. -/
def toText (moment : Moment) : List Char :=
  moment.date.toText ++ ' ' :: moment.clockText ++ (moment.offset.map offsetText).getD []

/-- Microseconds of universal time, if the offset is known, else of local time. -/
def instant (moment : Moment) : Int :=
  let minutes : Int := moment.date.ordinal * minutesPerDay + moment.hour * 60 + moment.minute
  ((minutes - moment.offset.getD 0) * 60 + moment.second) * 1000000 + moment.microsecond

end Moment

end IgnoreRules
