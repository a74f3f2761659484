/-!
# Calendar dates

Dates of the proleptic Gregorian calendar with years from 1 to 9999, alone or with a time of day, as
they stand in plain documents. A text that looks like a date need not denote one; `Date.check` and
`Moment.check` say why not.
-/

namespace EntityAtlas

/-- A calendar date. -/
structure Date where
  /-- The year, from 1 to 9999. -/
  year : Nat
  /-- The month, from 1 to 12. -/
  month : Nat
  /-- The day of the month, from 1. -/
  day : Nat
  deriving DecidableEq, Repr, Inhabited

/-- Why three numbers denote no date. -/
inductive DateFault where
  /-- The year is zero. -/
  | year (given : Nat)
  /-- The month is not one of twelve. -/
  | month
  /-- The month has no such day. -/
  | day
  deriving DecidableEq, Repr

/-- The wording of a date fault. -/
def DateFault.message : DateFault → String
  | .year given => "year " ++ toString given ++ " is out of range"
  | .month => "month must be in 1..12"
  | .day => "day is out of range for month"

namespace Date

/-- Every fourth year is a leap year, but of the full centuries only every fourth. -/
def isLeap (year : Nat) : Bool := year % 4 = 0 && (year % 100 ≠ 0 || year % 400 = 0)

/-- The number of days of a month. -/
def daysIn (year month : Nat) : Nat :=
  if month = 2 then (if isLeap year then 29 else 28)
  else if month ∈ [4, 6, 9, 11] then 30 else 31

/-- The date of a year, a month and a day; of several faults the largest unit is reported. -/
def check (year month day : Nat) : Except DateFault Date :=
  if year = 0 ∨ 9999 < year then .error (.year year)
  else if month = 0 ∨ 12 < month then .error .month
  else if day = 0 ∨ daysIn year month < day then .error .day
  else .ok ⟨year, month, day⟩

/-- A number in decimal, filled up with zeros on the left to a width. -/
def padded (width n : Nat) : String :=
  let digits := (toString n).toList
  String.ofList (List.replicate (width - digits.length) '0' ++ digits)

/-- The date as year, month and day joined by hyphens. -/
def iso (d : Date) : String :=
  padded 4 d.year ++ "-" ++ padded 2 d.month ++ "-" ++ padded 2 d.day

end Date

/-- A date with a time of day. -/
structure Moment where
  /-- The date. -/
  date : Date
  /-- The hour, from 0 to 23. -/
  hour : Nat
  /-- The minute, from 0 to 59. -/
  minute : Nat
  /-- The second, from 0 to 59. -/
  second : Nat
  /-- The microsecond, from 0 to 999999. -/
  microsecond : Nat
  /-- How many minutes the time is ahead of universal time, where that is told. -/
  ahead : Option Int
  deriving DecidableEq, Repr, Inhabited

/-- A number of minutes in whole days and seconds, as a literal. -/
def spanLiteral (minutes : Int) : String :=
  let days := minutes / 1440
  let seconds := minutes % 1440 * 60
  let parts :=
    (if days = 0 then [] else ["days=" ++ toString days]) ++
      if seconds = 0 then [] else ["seconds=" ++ toString seconds]
  "datetime.timedelta(" ++ (if parts.isEmpty then "0" else ", ".intercalate parts) ++ ")"

/-- Why a date and a time of day denote no moment. -/
inductive MomentFault where
  /-- The time is a day or more away from universal time. -/
  | ahead (minutes : Int)
  /-- The date is none. -/
  | date (fault : DateFault)
  /-- The hour is not one of a day. -/
  | hour
  /-- The minute is not one of an hour. -/
  | minute
  /-- The second is not one of a minute. -/
  | second
  deriving DecidableEq, Repr

/-- The wording of a fault of a moment. -/
def MomentFault.message : MomentFault → String
  | .ahead minutes =>
    "offset must be a timedelta strictly between -timedelta(hours=24) and timedelta(hours=24), " ++
      "not " ++ spanLiteral minutes ++ "."
  | .date fault => fault.message
  | .hour => "hour must be in 0..23"
  | .minute => "minute must be in 0..59"
  | .second => "second must be in 0..59"

namespace Moment

/-- The moment of a date and a time of day. The distance from universal time is looked at first,
then the units from the largest on. -/
def check (year month day hour minute second microsecond : Nat) (ahead : Option Int) :
    Except MomentFault Moment :=
  match ahead.filter fun minutes => 1440 ≤ minutes.natAbs with
  | some minutes => .error (.ahead minutes)
  | none =>
    match Date.check year month day with
    | .error fault => .error (.date fault)
    | .ok date =>
      if 23 < hour then .error .hour
      else if 59 < minute then .error .minute
      else if 59 < second then .error .second
      else .ok ⟨date, hour, minute, second, microsecond, ahead⟩

/-- How far a time is ahead of universal time, in hours and minutes. -/
def aheadText (minutes : Int) : String :=
  (if minutes < 0 then "-" else "+") ++ Date.padded 2 (minutes.natAbs / 60) ++ ":" ++
    Date.padded 2 (minutes.natAbs % 60)

/-- The time of day, with decimals where the seconds are not whole. -/
def clock (m : Moment) : String :=
  Date.padded 2 m.hour ++ ":" ++ Date.padded 2 m.minute ++ ":" ++ Date.padded 2 m.second ++
    if m.microsecond = 0 then "" else "." ++ Date.padded 6 m.microsecond

/-- The date, a separator and the time of day. -/
def iso (separator : String) (m : Moment) : String :=
  m.date.iso ++ separator ++ m.clock ++ (m.ahead.map aheadText).getD ""

/-- The moment in the form for interchange, in which universal time has a letter. -/
def interchange (m : Moment) : String :=
  m.date.iso ++ "T" ++ m.clock ++
    match m.ahead with
    | none => ""
    | some 0 => "Z"
    | some minutes => aheadText minutes

end Moment

end EntityAtlas
