import Parlance.Number.Digits

/-!
# Dates and times of day

Days of the Gregorian calendar and times of day without a zone. A date or time can be written down
with parts that are out of range; `Date.fault?` and `Clock.fault?` say which part is.
-/

namespace Parlance

open Parlance.Number

/-- A day. -/
structure Date where
  year : Nat
  month : Nat
  day : Nat
deriving DecidableEq, Repr, Inhabited

/-- A time of day. -/
structure Clock where
  hour : Nat
  minute : Nat
  second : Nat
  microsecond : Nat
deriving DecidableEq, Repr, Inhabited

/-- A part of a date or time that is out of range. -/
inductive CalendarFault where
  | year (value : Nat)
  | month
  | day
  | hour
  | minute
  | second
deriving DecidableEq, Repr

namespace CalendarFault

/-- The wording of a fault. -/
def message : CalendarFault → String
  | year value => s!"year {value} is out of range"
  | month => "month must be in 1..12"
  | day => "day is out of range for month"
  | hour => "hour must be in 0..23"
  | minute => "minute must be in 0..59"
  | second => "second must be in 0..59"

end CalendarFault

namespace Date

/-- Whether a year has 366 days. -/
def isLeap (year : Nat) : Bool := year % 4 == 0 && (year % 100 != 0 || year % 400 == 0)

/-- The number of days of a month. -/
def daysInMonth (year month : Nat) : Nat :=
  match month with
  | 2 => if isLeap year then 29 else 28
  | 4 => 30
  | 6 => 30
  | 9 => 30
  | 11 => 30
  | _ => 31

/-- The first part that is out of range. -/
def fault? (d : Date) : Option CalendarFault :=
  if d.year < 1 || 9999 < d.year then some (.year d.year)
  else if d.month < 1 || 12 < d.month then some .month
  else if d.day < 1 || daysInMonth d.year d.month < d.day then some .day
  else none

/-- The number of the day in its year, from 1. -/
def dayOfYear (d : Date) : Nat :=
  (List.range (d.month - 1)).foldl (fun days m => days + daysInMonth d.year (m + 1)) 0 + d.day

/-- The number of days before a year. -/
def daysBeforeYear (year : Nat) : Nat :=
  let y := year - 1
  y * 365 + y / 4 - y / 100 + y / 400

/-- The day of the week, with Monday as 0. -/
def weekday (d : Date) : Nat := (daysBeforeYear d.year + d.dayOfYear + 6) % 7

/-- The quarter of the year, from 1. -/
def quarter (d : Date) : Nat := (d.month - 1) / 3 + 1

/-- A date as year, month and day with hyphens. -/
def text (d : Date) : String :=
  String.ofList (paddedDecimal 4 d.year ++ '-' :: paddedDecimal 2 d.month ++
    '-' :: paddedDecimal 2 d.day)

end Date

namespace Clock

/-- The start of the day. -/
def midnight : Clock := ⟨0, 0, 0, 0⟩

/-- The first part that is out of range. -/
def fault? (t : Clock) : Option CalendarFault :=
  if 24 ≤ t.hour then some .hour
  else if 60 ≤ t.minute then some .minute
  else if 60 ≤ t.second then some .second
  else none

/-- A time as hours, minutes and seconds with colons, and microseconds if there are any. -/
def text (t : Clock) : String :=
  let fraction := if t.microsecond = 0 then [] else '.' :: paddedDecimal 6 t.microsecond
  String.ofList (paddedDecimal 2 t.hour ++ ':' :: paddedDecimal 2 t.minute ++
    ':' :: paddedDecimal 2 t.second ++ fraction)

end Clock

/-- A day, with a time of day if there is one. -/
structure Timestamp where
  date : Date
  clock : Option Clock
deriving DecidableEq, Repr, Inhabited

namespace Timestamp

/-- The time of day; a day without one begins at midnight. -/
def clockOrMidnight (t : Timestamp) : Clock := t.clock.getD .midnight

/-- A date, and behind a `T` the time if there is one. -/
def text (t : Timestamp) : String :=
  match t.clock with
  | some clock => t.date.text ++ "T" ++ clock.text
  | none => t.date.text

end Timestamp

end Parlance
