/-!
# Civil time

Instants as milliseconds since 1970-01-01T00:00:00 UTC, turned into proleptic Gregorian dates
and times of day, and written as RFC 3339 text with a `+00:00` offset.  Dates are supported from
the year -262143 to the year 262142; instants outside have no date.

A day number becomes a date by the era method: eras of 400 years (146097 days) starting on
March 1st, so that leap days fall at the end of a year of the era.
-/

namespace DataQuality.Time

/-- A date of the proleptic Gregorian calendar. -/
structure Date where
  year : Int
  month : Nat
  day : Nat
  deriving BEq, Repr, Inhabited

/-- The date of a day counted from 1970-01-01. -/
def Date.ofDays (days : Int) : Date :=
  let z := days + 719468
  let era := z / 146097
  let doe := (z - era * 146097).toNat
  let yoe := (doe - doe / 1460 + doe / 36524 - doe / 146096) / 365
  let doy := doe - (365 * yoe + yoe / 4 - yoe / 100)
  let mp := (5 * doy + 2) / 153
  let day := doy - (153 * mp + 2) / 5 + 1
  let month := if mp < 10 then mp + 3 else mp - 9
  let year := (yoe : Int) + era * 400 + (if month ≤ 2 then 1 else 0)
  ⟨year, month, day⟩

/-- The first instant with a date: -262143-01-01T00:00:00. -/
def firstMillis : Int := -8334601228800000

/-- The last instant with a date: +262142-12-31T23:59:59.999. -/
def lastMillis : Int := 8210266876799999

/-- A number written with at least `width` digits, zeros in front. -/
def padded (width : Nat) (n : Nat) : String :=
  let digits := toString n
  String.ofList (List.replicate (width - digits.length) '0') ++ digits

/-- A year as RFC 3339 writes it: four digits within 0 to 9999, otherwise a sign and at least
four digits. -/
def yearText (year : Int) : String :=
  if 0 ≤ year ∧ year ≤ 9999 then padded 4 year.toNat
  else (if year < 0 then "-" else "+") ++ padded 4 year.natAbs

/-- An instant in milliseconds as RFC 3339 text in UTC, the fraction of a second written with
three digits when it is not zero; none outside the supported dates. -/
def rfc3339? (millis : Int) : Option String :=
  if millis < firstMillis ∨ lastMillis < millis then none else
  let days := millis / 86400000
  let rest := (millis - days * 86400000).toNat
  let date := Date.ofDays days
  let seconds := rest / 1000
  let fraction := rest % 1000
  let clock := padded 2 (seconds / 3600) ++ ":" ++ padded 2 (seconds / 60 % 60) ++ ":" ++
    padded 2 (seconds % 60)
  some (yearText date.year ++ "-" ++ padded 2 date.month ++ "-" ++ padded 2 date.day ++ "T" ++
    clock ++ (if fraction == 0 then "" else "." ++ padded 3 fraction) ++ "+00:00")

/-- An instant in milliseconds as a UTC timestamp fit for a file name, to the second, with
dashes in the time of day: `2024-01-02T03-04-05Z`; none outside the supported dates. -/
def fileStamp? (millis : Int) : Option String :=
  if millis < firstMillis ∨ lastMillis < millis then none else
  let days := millis / 86400000
  let seconds := (millis - days * 86400000).toNat / 1000
  let date := Date.ofDays days
  some (yearText date.year ++ "-" ++ padded 2 date.month ++ "-" ++ padded 2 date.day ++ "T" ++
    padded 2 (seconds / 3600) ++ "-" ++ padded 2 (seconds / 60 % 60) ++ "-" ++
    padded 2 (seconds % 60) ++ "Z")

end DataQuality.Time
