import Parlance.Calendar

/-!
# Periods of the day

A language divides the day into periods such as the morning or the night, and may have names for
single moments such as noon. `DayPeriodRules.periodOf` is the period of a time of day;
`PeriodNames.nameOf?` is the name of a period in a length, or in another one where it has none.
-/

namespace Parlance

/-- A half of the day, a moment with a name, or a part of the day. -/
inductive DayPeriod where
  | am
  | pm
  | midnight
  | noon
  | morning
  | lateMorning
  | midday
  | afternoon
  | evening
  | night
  | lateNight
deriving DecidableEq, Repr, Inhabited

/-- A part of the day from one hour to another, which may be one of the next day. -/
structure DaySpan where
  period : DayPeriod
  first : Nat
  last : Nat
deriving DecidableEq, Repr, Inhabited

namespace DaySpan

/-- The number of seconds of an hour. -/
def secondsOfHour : Nat := 3600

/-- Whether a second of the day is in a part of the day. -/
def covers (s : DaySpan) (second : Nat) : Bool :=
  let first := s.first * secondsOfHour
  let last := s.last * secondsOfHour
  if first < last then first ≤ second && second < last else first ≤ second || second < last

end DaySpan

/-- How a language divides the day. -/
structure DayPeriodRules where
  /-- Hours that have a name for the moment at which they begin. -/
  moments : List (DayPeriod × Nat)
  spans : List DaySpan
deriving DecidableEq, Repr, Inhabited

namespace DayPeriodRules

/-- The half of the day of an hour. -/
def halfOf (hour : Nat) : DayPeriod := if hour < 12 then .am else .pm

/-- The period of a time of day: a moment, a part of the day, or its half. -/
def periodOf (r : DayPeriodRules) (t : Clock) : DayPeriod :=
  let second := t.hour * DaySpan.secondsOfHour + t.minute * 60 + t.second
  match r.moments.find? fun m => m.2 * DaySpan.secondsOfHour == second with
  | some m => m.1
  | none =>
    match r.spans.find? (·.covers second) with
    | some s => s.period
    | none => halfOf t.hour

end DayPeriodRules

/-- Names of periods in three lengths, none of which need have all of them. -/
structure PeriodNames where
  abbreviated : List (DayPeriod × String)
  wide : List (DayPeriod × String)
  narrow : List (DayPeriod × String)
deriving DecidableEq, Repr, Inhabited

namespace PeriodNames

/-- No names. -/
def none : PeriodNames := ⟨[], [], []⟩

/-- The name of a period in a list. -/
def lookUp (period : DayPeriod) (names : List (DayPeriod × String)) : Option String :=
  (names.find? (·.1 == period)).map (·.2)

/-- The name of a period in the length that a field of a width asks for, which is abbreviated up to
three letters, then wide, then narrow; and the wide, narrow or abbreviated name where there is
none. -/
def nameOf? (n : PeriodNames) (period : DayPeriod) (width : Nat) : Option String :=
  let asked := if width ≤ 3 then n.abbreviated else if width = 4 then n.wide else n.narrow
  [asked, n.wide, n.narrow, n.abbreviated].findSome? (lookUp period)

end PeriodNames

end Parlance
