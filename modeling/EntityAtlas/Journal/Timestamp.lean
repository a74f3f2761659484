import EntityAtlas.Calendar

/-!
# Timestamps

A moment is counted in microseconds since the beginning of 1970, universal time, and is written as
date and time of day.
-/

namespace EntityAtlas

/-- The number of days from the beginning of March of the year 0 to the beginning of 1970. -/
def daysBefore1970 : Nat := 719468

/-- The date that lies a number of days after the first of January 1970. Years are counted from
March, so that a leap day ends its year, in cycles of 400 years or 146097 days. -/
def Date.ofDays (days : Nat) : Date :=
  let total := days + daysBefore1970
  let cycle := total / 146097
  let day := total % 146097
  let year := (day - day / 1460 + day / 36524 - day / 146096) / 365
  let dayOfYear := day - (365 * year + year / 4 - year / 100)
  let month := (5 * dayOfYear + 2) / 153
  { year := year + cycle * 400 + (if month < 10 then 0 else 1)
    month := if month < 10 then month + 3 else month - 9
    day := dayOfYear - (153 * month + 2) / 5 + 1 }

/-- A moment as date and time of day. -/
def timestamp (microseconds : Nat) : String :=
  let seconds := microseconds / 1000000
  let ofDay := seconds % 86400
  (Date.ofDays (seconds / 86400)).iso ++ "T" ++ Date.padded 2 (ofDay / 3600) ++ ":" ++
    Date.padded 2 (ofDay / 60 % 60) ++ ":" ++ Date.padded 2 (ofDay % 60) ++ "." ++
    Date.padded 6 (microseconds % 1000000) ++ "Z"

end EntityAtlas
