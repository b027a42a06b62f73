import GraphCache.Number.Binary64

/-! Dates and times of day in settings files. No setting is one; they only occur
where something else was expected, and then the message shows them. -/
namespace GraphCache

/-- A time of day to the microsecond, and the zone's distance from universal time in
minutes if a zone is given. -/
structure TimeOfDay where
  hour : Nat
  minute : Nat
  second : Nat
  microsecond : Nat
  zone : Option Int
deriving DecidableEq, Repr

structure Moment where
  year : Nat
  month : Nat
  day : Nat
  time : Option TimeOfDay
deriving DecidableEq, Repr

namespace Moment

/-! ## Calendar -/

def daysIn (year month : Nat) : Nat :=
  if month = 2 then
    if (year % 4 = 0 ∧ year % 100 ≠ 0) ∨ year % 400 = 0 then 29 else 28
  else if month ∈ [4, 6, 9, 11] then 30 else 31

/-- The days of the calendar before a date, of which the first is the first day of the
year one. -/
def daysBefore (moment : Moment) : Nat :=
  let past := moment.year - 1
  let months := (List.range moment.month).drop 1
  past * 365 + past / 4 - past / 100 + past / 400 +
    (months.map (daysIn moment.year)).foldl (· + ·) 0 + (moment.day - 1)

/-- The point of time that a moment names, in microseconds, if it says its zone. -/
def instant? (moment : Moment) : Option Int := do
  let time ← moment.time
  let zone ← time.zone
  let minutes : Int := (moment.daysBefore * 24 + time.hour) * 60 + time.minute - zone
  return (minutes * 60 + time.second) * 1000000 + time.microsecond

/-! ## Texts -/

/-- A number with at least `width` digits. -/
def padded (width value : Nat) : String :=
  let digits := toString value
  String.ofList (List.replicate (width - digits.length) '0') ++ digits

/-- A zone as it follows a time. -/
def zoneText (minutes : Int) : String :=
  (if minutes < 0 then "-" else "+") ++ padded 2 (minutes.natAbs / 60) ++ ":" ++
    padded 2 (minutes.natAbs % 60)

def display (moment : Moment) : String :=
  let date := padded 4 moment.year ++ "-" ++ padded 2 moment.month ++ "-" ++ padded 2 moment.day
  match moment.time with
  | none => date
  | some time =>
    date ++ " " ++ padded 2 time.hour ++ ":" ++ padded 2 time.minute ++ ":" ++
      padded 2 time.second ++
      (if time.microsecond = 0 then "" else "." ++ padded 6 time.microsecond) ++
      (time.zone.map zoneText).getD ""

/-- A zone as one of the parts of a time inside a list or a mapping. Distances west
are given as a day less and the rest of the day. -/
def zoneLiteral (minutes : Int) : String :=
  let part :=
    if minutes < 0 then "days=-1, seconds=" ++ toString (86400 + minutes * 60)
    else "seconds=" ++ toString (minutes * 60)
  if minutes = 0 then "datetime.timezone.utc"
  else "datetime.timezone(datetime.timedelta(" ++ part ++ "))"

/-- A moment inside a list or a mapping: its parts, where a time leaves out the
seconds and microseconds that end it with zeros. -/
def literal (moment : Moment) : String :=
  let date := [toString moment.year, toString moment.month, toString moment.day]
  match moment.time with
  | none => "datetime.date(" ++ ", ".intercalate date ++ ")"
  | some time =>
    let fine :=
      if time.microsecond ≠ 0 then [toString time.second, toString time.microsecond]
      else if time.second ≠ 0 then [toString time.second] else []
    let zone := (time.zone.map fun minutes => "tzinfo=" ++ zoneLiteral minutes).toList
    "datetime.datetime(" ++
      ", ".intercalate (date ++ [toString time.hour, toString time.minute] ++ fine ++ zone) ++ ")"

end Moment
end GraphCache
