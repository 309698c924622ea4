/-! # Points in time

  The catalogue's clock counts seconds from the first of January 2024. A point in
  time is written as a date and a time of day in the Gregorian calendar, without
  fractions and without a zone.

  To find the date, days are counted from the first of March of the year 0, so
  that the leap day is the last day of a year: an era of 400 years has 146097 days.
-/

namespace RequestCatalog

/-- Seconds since 2024-01-01T00:00:00. -/
structure Instant where
  /-- The number of seconds, negative before 2024. -/
  seconds : Int
  deriving DecidableEq, Repr, Inhabited

namespace Instant

/-- Days from the first of March of the year 0 to the first of January 2024. -/
def daysBefore2024 : Int := 739191

/-- A date of the Gregorian calendar. -/
structure Date where
  /-- The year. -/
  year : Int
  /-- The month, counted from 1. -/
  month : Nat
  /-- The day of the month, counted from 1. -/
  day : Nat
  deriving DecidableEq, Repr

/-- The date that lies `days` days after the first of March of the year 0. -/
def Date.ofDays (days : Int) : Date :=
  let era := days / 146097
  let dayOfEra := (days % 146097).toNat
  let yearOfEra :=
    (dayOfEra - dayOfEra / 1460 + dayOfEra / 36524 - dayOfEra / 146096) / 365
  let dayOfYear := dayOfEra - (365 * yearOfEra + yearOfEra / 4 - yearOfEra / 100)
  -- months counted from March have 153 days in every five
  let marchMonth := (5 * dayOfYear + 2) / 153
  let month := if marchMonth < 10 then marchMonth + 3 else marchMonth - 9
  let year := yearOfEra + era * 400
  { year := if month ≤ 2 then year + 1 else year
    month := month
    day := dayOfYear - (153 * marchMonth + 2) / 5 + 1 }

/-- A number written with at least `width` decimal digits. -/
def padded (width n : Nat) : String :=
  let digits := Nat.toDigits 10 n
  String.ofList (List.replicate (width - digits.length) '0' ++ digits)

/-- The date, such as `2024-01-01`. -/
def date (t : Instant) : String :=
  let date := Date.ofDays (daysBefore2024 + t.seconds / 86400)
  padded 4 date.year.toNat ++ "-" ++ padded 2 date.month ++ "-" ++ padded 2 date.day

/-- The time of day, such as `00:00:07`. -/
def timeOfDay (t : Instant) : String :=
  let second := (t.seconds % 86400).toNat
  padded 2 (second / 3600) ++ ":" ++ padded 2 (second / 60 % 60) ++ ":" ++ padded 2 (second % 60)

/-- The written form, such as `2024-01-01T00:00:07`. -/
def text (t : Instant) : String := t.date ++ "T" ++ t.timeOfDay

example : text ⟨7⟩ = "2024-01-01T00:00:07" := by decide +kernel
example : text ⟨59 * 86400⟩ = "2024-02-29T00:00:00" := by decide +kernel
example : text ⟨366 * 86400 - 1⟩ = "2024-12-31T23:59:59" := by decide +kernel
example : text ⟨-1⟩ = "2023-12-31T23:59:59" := by decide +kernel

end Instant

end RequestCatalog
