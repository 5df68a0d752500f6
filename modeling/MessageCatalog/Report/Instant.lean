import MessageCatalog.Text.Numeral

/-!
# Instants

A point in time as reports write it: the date and the time of day in universal time. Days are
counted in eras of four hundred years that begin on the first of March, so that a leap day is the
last day of its year.
-/

namespace MessageCatalog.Report

/-- A point in time: seconds since the start of 1970 and billionths of a second behind them. -/
structure Instant where
  seconds : Nat
  nanoseconds : Nat := 0
  deriving DecidableEq, Repr

/-- A day of the calendar. -/
structure Date where
  year : Nat
  month : Nat
  day : Nat
  deriving DecidableEq, Repr

/-- The days of an era of four hundred years. -/
def daysPerEra : Nat := 146097

/-- The day that is some days after the first of March of the year 0. -/
def Date.afterMarch (days : Nat) : Date :=
  let dayOfEra := days % daysPerEra
  let yearOfEra :=
    (dayOfEra - dayOfEra / 1460 + dayOfEra / 36524 - dayOfEra / 146096) / 365
  let dayOfYear := dayOfEra - (365 * yearOfEra + yearOfEra / 4 - yearOfEra / 100)
  let monthFromMarch := (5 * dayOfYear + 2) / 153
  let month := if monthFromMarch < 10 then monthFromMarch + 3 else monthFromMarch - 9
  { year := days / daysPerEra * 400 + yearOfEra + if month ≤ 2 then 1 else 0
    month
    day := dayOfYear - (153 * monthFromMarch + 2) / 5 + 1 }

/-- The days from the first of March of the year 0 to the start of 1970. -/
def daysBefore1970 : Nat := 719468

/-- A number with zeros in front, so that it has a width. -/
def padded (width n : Nat) : String :=
  let digits := Text.decimal n
  String.ofList (List.replicate (width - digits.length) '0' ++ digits)

namespace Instant

def date (i : Instant) : Date :=
  .afterMarch (i.seconds / 86400 + daysBefore1970)

/-- The part behind the seconds, in three, six or nine places, or none at all. -/
def fraction (i : Instant) : String :=
  if i.nanoseconds = 0 then ""
  else if i.nanoseconds % 1000000 = 0 then "." ++ padded 3 (i.nanoseconds / 1000000)
  else if i.nanoseconds % 1000 = 0 then "." ++ padded 6 (i.nanoseconds / 1000)
  else "." ++ padded 9 i.nanoseconds

/-- The date and the time of day, in universal time. -/
def render (i : Instant) : String :=
  let time := i.seconds % 86400
  padded 4 i.date.year ++ "-" ++ padded 2 i.date.month ++ "-" ++ padded 2 i.date.day ++ "T" ++
    padded 2 (time / 3600) ++ ":" ++ padded 2 (time / 60 % 60) ++ ":" ++ padded 2 (time % 60) ++
    i.fraction ++ "+00:00"

end Instant

end MessageCatalog.Report
