import Parlance.Calendar

/-!
# Weeks

Regions differ in the day that a week begins with and in how many days of a year or month its first
week needs. `WeekRules.numberOf` numbers the weeks of a year or month from 1, or from 0 where the
days before the first full enough week are a week of the year or month before.
`WeekRules.weekOfYear?` and `WeekRules.weekYear?` move such a week to the year that it belongs to.
-/

namespace Parlance

/-- How weeks are counted. -/
structure WeekRules where
  /-- The first day of the week, with Monday as 0. -/
  firstDay : Nat
  /-- The number of days that the first week has to have. -/
  leastDays : Nat
deriving DecidableEq, Repr, Inhabited

namespace WeekRules

/-- The place of a day of the week in a week, from 1. -/
def dayNumber (w : WeekRules) (weekday : Nat) : Nat := (7 - w.firstDay + weekday) % 7 + 1

/-- The place in its week, from 0, of the first day of a period, by the number of a later day in the
period and its day of the week. -/
def startOf (w : WeekRules) (day weekday : Nat) : Nat :=
  (((weekday : Int) - w.firstDay - day + 1) % 7).toNat

/-- The number of the week of a day in a period, by the number of the day and its day of the
week. -/
def numberOf (w : WeekRules) (day weekday : Nat) : Nat :=
  let start := w.startOf day weekday
  (day + start - 1) / 7 + (if w.leastDays ≤ 7 - start then 1 else 0)

/-- The number of the week in its month. -/
def weekOfMonth (w : WeekRules) (d : Date) : Nat := w.numberOf d.day d.weekday

/-- The number of the week in its year: a week 0 is the last of the year before, and a week 53 the
first of the next year if it has days enough there. The years before the first and after the last
have none. -/
def weekOfYear? (w : WeekRules) (d : Date) : Option Nat :=
  let week := w.numberOf d.dayOfYear d.weekday
  if week = 0 then
    -- the week belongs to the year before
    let last : Date := ⟨d.year - 1, 12, 31⟩
    if last.fault?.isSome then none else some (w.numberOf last.dayOfYear last.weekday)
  else if 52 < week then
    -- the week may be the first of the next year
    let next : Date := ⟨d.year + 1, 1, 1⟩
    if next.fault?.isSome then none
    else if w.numberOf 1 next.weekday = 1 && 32 ≤ d.day + w.startOf 1 next.weekday then some 1
    else some week
  else some week

/-- The year that the week of a day belongs to. -/
def weekYear? (w : WeekRules) (d : Date) : Option Nat :=
  if d.month = 1 && d.day < 7 then
    (w.weekOfYear? d).map fun week => if 52 ≤ week then d.year - 1 else d.year
  else if d.month = 12 && 25 < d.day then
    (w.weekOfYear? d).map fun week => if week ≤ 2 then d.year + 1 else d.year
  else some d.year

end WeekRules

end Parlance
