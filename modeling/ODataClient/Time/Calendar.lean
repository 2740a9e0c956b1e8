import ODataClient.Number.Notation

/-! # Calendar times
Instants of the proleptic Gregorian calendar in universal time, written to the second. The calendar
counts from 1 March, so that the leap day is the last of its year, in eras of 400 years. -/

namespace ODataClient

/-- A day of the proleptic Gregorian calendar. -/
structure CalendarDay where
  /-- The year; the year before year one is zero. -/
  year : Int
  /-- The month, from one to twelve. -/
  month : Nat
  /-- The day of the month, from one. -/
  day : Nat
deriving DecidableEq, Repr

namespace CalendarDay

/-- The days in an era of 400 years. -/
def daysPerEra : Nat := 146097

/-- The days from 1 March of the year zero to 1 January 1970. -/
def daysBeforeEpoch : Nat := 719468

/-- The day that lies a number of days after 1 January 1970. -/
def ofEpochDays (days : Int) : CalendarDay :=
  let shifted := days + daysBeforeEpoch
  let era := shifted / daysPerEra
  let dayOfEra := (shifted % daysPerEra).toNat
  let yearOfEra := (dayOfEra - dayOfEra / 1460 + dayOfEra / 36524 - dayOfEra / 146096) / 365
  let dayOfYear := dayOfEra - (365 * yearOfEra + yearOfEra / 4 - yearOfEra / 100)
  let monthFromMarch := (5 * dayOfYear + 2) / 153
  let month := if monthFromMarch < 10 then monthFromMarch + 3 else monthFromMarch - 9
  { year := yearOfEra + era * 400 + (if month ≤ 2 then 1 else 0)
    month := month
    day := dayOfYear - (153 * monthFromMarch + 2) / 5 + 1 }

/-- A year in at least four digits, signed outside the years from 0 to 9999. -/
def yearText (year : Int) : String :=
  if 0 ≤ year ∧ year ≤ 9999 then padZeros 4 (naturalText year.toNat)
  else (if year < 0 then "-" else "+") ++ padZeros 4 (naturalText year.natAbs)

end CalendarDay

/-- An instant in universal time. -/
structure Timestamp where
  /-- Whole seconds since the start of 1970, negative before it. -/
  seconds : Int
  /-- Nanoseconds into the second; a billion and more inside a leap second. -/
  nanoseconds : Nat
deriving DecidableEq, Repr

namespace Timestamp

/-- Two digits of a number below one hundred. -/
def twoDigits (value : Nat) : String := padZeros 2 (naturalText value)

/-- The instant as `year-month-dayThour:minute:secondZ`; a leap second is the second sixty. -/
def text (timestamp : Timestamp) : String :=
  let day := CalendarDay.ofEpochDays (timestamp.seconds / 86400)
  let second := (timestamp.seconds % 86400).toNat
  let leap := if 1000000000 ≤ timestamp.nanoseconds then 1 else 0
  CalendarDay.yearText day.year ++ "-" ++ twoDigits day.month ++ "-" ++ twoDigits day.day ++ "T" ++
    twoDigits (second / 3600) ++ ":" ++ twoDigits (second / 60 % 60) ++ ":" ++
    twoDigits (second % 60 + leap) ++ "Z"

end Timestamp

end ODataClient
