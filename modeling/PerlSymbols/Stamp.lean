/-!
# Dates and times

A settings file may hold a date, or a date with a time of day. No setting takes one, so a stamp is
only shown: alone in the usual digits, and inside another value as a call that makes it.
-/

namespace PerlSymbols

/-- A time of day. `zone` is the distance from universal time in seconds. -/
structure Stamp.Time where
  hour : Nat
  minute : Nat
  second : Nat
  micro : Nat
  zone : Option Int
  deriving DecidableEq

structure Stamp where
  year : Nat
  month : Nat
  day : Nat
  time : Option Stamp.Time
  deriving DecidableEq

namespace Stamp

def secondsPerDay : Int := 86400

def isLeapYear (year : Nat) : Bool :=
  year % 4 == 0 && (year % 100 != 0 || year % 400 == 0)

def daysInMonth (year month : Nat) : Nat :=
  if month == 2 then if isLeapYear year then 29 else 28
  else if [4, 6, 9, 11].contains month then 30
  else 31

/-- The calls that make a span of so many seconds. -/
def quotedSpan (seconds : Int) : String :=
  let days := seconds / secondsPerDay
  let rest := seconds % secondsPerDay
  let parts := (if days == 0 then [] else [s!"days={days}"])
    ++ (if rest == 0 then [] else [s!"seconds={rest}"])
  "datetime.timedelta(" ++ (if parts.isEmpty then "0" else ", ".intercalate parts) ++ ")"

/-- What is wrong with a date and time, the first part that is out of range. -/
def complaint? (s : Stamp) : Option String :=
  let zoneComplaint := match s.time.bind Time.zone with
    | some offset =>
      if secondsPerDay ≤ offset.natAbs then
        some ("offset must be a timedelta strictly between -timedelta(hours=24) and "
          ++ "timedelta(hours=24), not " ++ quotedSpan offset ++ ".")
      else none
    | none => none
  let dateComplaint :=
    if s.year == 0 then some "year 0 is out of range"
    else if s.month == 0 || 12 < s.month then some "month must be in 1..12"
    else if s.day == 0 || daysInMonth s.year s.month < s.day then
      some "day is out of range for month"
    else none
  let timeComplaint := match s.time with
    | some t =>
      if 23 < t.hour then some "hour must be in 0..23"
      else if 59 < t.minute then some "minute must be in 0..59"
      else if 59 < t.second then some "second must be in 0..59"
      else none
    | none => none
  (zoneComplaint.or dateComplaint).or timeComplaint

/-- The days up to a date, counted from the first of January of the year one. -/
def dayNumber (s : Stamp) : Nat :=
  let past := s.year - 1
  let months := (List.range (s.month - 1)).foldl (fun days m => days + daysInMonth s.year (m + 1)) 0
  365 * past + past / 4 - past / 100 + past / 400 + months + s.day

/-- The instant of a time of day in a zone, in microseconds. -/
def instant? (s : Stamp) : Option Int := do
  let t ← s.time
  let zone ← t.zone
  let seconds : Int := ((s.dayNumber * 24 + t.hour) * 60 + t.minute) * 60 + t.second
  return (seconds - zone) * 1000000 + t.micro

/-- A number with zeros in front. -/
def padded (width n : Nat) : String :=
  let digits := Nat.toDigits 10 n
  String.ofList (List.replicate (width - digits.length) '0' ++ digits)

def Time.written (t : Time) : String :=
  let zone := match t.zone with
    | some offset =>
      let minutes := offset.natAbs / 60
      (if offset < 0 then "-" else "+") ++ padded 2 (minutes / 60) ++ ":" ++ padded 2 (minutes % 60)
    | none => ""
  padded 2 t.hour ++ ":" ++ padded 2 t.minute ++ ":" ++ padded 2 t.second
    ++ (if t.micro == 0 then "" else "." ++ padded 6 t.micro) ++ zone

/-- The text of a stamp that stands alone. -/
def written (s : Stamp) : String :=
  padded 4 s.year ++ "-" ++ padded 2 s.month ++ "-" ++ padded 2 s.day
    ++ match s.time with
      | some t => " " ++ t.written
      | none => ""

/-- The text of a stamp inside another value. Seconds that are zero are left out. -/
def quoted (s : Stamp) : String :=
  let date := [s.year, s.month, s.day]
  match s.time with
  | none => "datetime.date(" ++ ", ".intercalate (date.map toString) ++ ")"
  | some t =>
    let clock := if t.micro != 0 then [t.hour, t.minute, t.second, t.micro]
      else if t.second != 0 then [t.hour, t.minute, t.second]
      else [t.hour, t.minute]
    let zone := match t.zone with
      | some offset =>
        if offset == 0 then ["tzinfo=datetime.timezone.utc"]
        else ["tzinfo=datetime.timezone(" ++ quotedSpan offset ++ ")"]
      | none => []
    "datetime.datetime(" ++ ", ".intercalate ((date ++ clock).map toString ++ zone) ++ ")"

end Stamp

end PerlSymbols
