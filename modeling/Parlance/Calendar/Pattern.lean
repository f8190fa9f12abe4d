import Parlance.Calendar
import Parlance.Conventions.Region
import Parlance.Number.Double

/-!
# Date patterns

A date pattern such as `EEEE, d MMMM y` has letters for the fields of a date, a run of one letter
being one field whose length says how it is written. Other characters stand for themselves, and so
does text between apostrophes; two apostrophes are one. `DatePattern.pieces` reads a pattern and
`DatePattern.render` writes a date by it.
-/

namespace Parlance

open Parlance.Number

/-- A piece of a date pattern. -/
inductive DatePiece where
  | literal (c : Char)
  | field (letter : Char) (width : Nat)
deriving DecidableEq, Repr

/-- Why a date cannot be written. -/
inductive DateFault where
  /-- A field has a length that does not exist for it. -/
  | badWidth (letter : Char) (width : Nat)
  /-- A field that is not supported. -/
  | unsupported (letter : Char)
  /-- A field for which the language has no name. -/
  | noName (letter : Char)
  /-- A week that begins before the first year or ends after the last one. -/
  | beyondCalendar
  /-- More digits of a second than there are numbers for. -/
  | tooFine
  /-- The language has no pattern for the fields asked for. -/
  | noPattern (skeleton : String)
  /-- The time of a day without one. -/
  | noTime
deriving DecidableEq, Repr

namespace DateFault

/-- The wording of a fault. -/
def message : DateFault → String
  | badWidth letter width =>
    s!"Invalid length for field: '{String.ofList (List.replicate width letter)}'"
  | unsupported letter => s!"Unsupported date field '{letter}'"
  | noName letter => s!"no name for date field '{letter}'"
  | beyondCalendar => "week outside of the calendar"
  | tooFine => "too many digits of a second"
  | noPattern skeleton => s!"no date pattern for '{skeleton}'"
  | noTime => "a date has no time of day"

end DateFault

namespace DatePattern

/-- The letters of fields. -/
def fieldLetters : List Char := "GyYuQqMLwWdDFgEecabBhHKkmsSAzZOvVxX".toList

/-- A character that stands for itself; the null character stands for an apostrophe. -/
def literal (c : Char) : DatePiece := .literal (if c = '\x00' then '\'' else c)

/-- A piece in front of others; a letter in front of a field of its own makes that field longer. -/
def push (c : Char) (rest : List DatePiece) : List DatePiece :=
  if fieldLetters.contains c then
    match rest with
    | .field letter width :: others =>
      if letter = c then .field letter (width + 1) :: others else .field c 1 :: rest
    | _ => .field c 1 :: rest
  else literal c :: rest

/-- The pieces of a pattern: with `none` outside of apostrophes, and with the text since an
apostrophe, reversed, inside. Text whose second apostrophe is missing is lost. -/
def piecesFrom : Option (List Char) → List Char → List DatePiece
  | _, [] => []
  | none, '\'' :: '\'' :: rest => .literal '\'' :: piecesFrom none rest
  | some seen, '\'' :: '\'' :: rest => piecesFrom (some ('\'' :: seen)) rest
  | none, '\'' :: rest => piecesFrom (some []) rest
  | some seen, '\'' :: rest => seen.reverse.map literal ++ piecesFrom none rest
  | none, c :: rest => push c (piecesFrom none rest)
  | some seen, c :: rest => piecesFrom (some (c :: seen)) rest

/-- The pieces of a pattern. -/
def pieces (pattern : String) : List DatePiece := piecesFrom none pattern.toList

/-- Whether a field can have a length. -/
def allowsWidth (letter : Char) (width : Nat) : Bool :=
  match letter with
  | 'c' => width == 1 || (3 ≤ width && width ≤ 6)
  | 'W' => width ≤ 1
  | 'F' => width ≤ 1
  | _ =>
    if "yYuSA".toList.contains letter then true
    else if "Ee".toList.contains letter then width ≤ 6
    else if letter = 'D' then width ≤ 3
    else if "GQqMLabB".toList.contains letter then width ≤ 5
    else width ≤ 2

/-- The fields that a date has a value for: all but those of time zones, and days counted over
years. -/
def isSupported (letter : Char) : Bool := "GyYuQqMLwWdDFEecabBhHKkmsSA".toList.contains letter

/-- A number with zeros in front up to a width. -/
def padded (n width : Nat) : String := String.ofList (paddedDecimal width n)

/-- The name at a place of the list that a field of a width takes: abbreviated up to three letters,
then wide, then narrow. -/
def nameOf (names : Names) (index width : Nat) : String :=
  let list :=
    if width ≤ 3 then names.abbreviated else if width = 4 then names.wide else names.narrow
  (list[index]?).getD ""

/-- The name of a day, for which a width of six takes the short names. -/
def dayName (names : DayNames) (index width : Nat) : String :=
  if width = 6 then (names.short[index]?).getD "" else nameOf names.toNames index width

/-- A year, of which a field of width two shows the last two digits. -/
def yearText (year width : Nat) : String :=
  let digits := paddedDecimal width year
  String.ofList (if width = 2 then digits.drop (digits.length - 2) else digits)

/-- A number up to a width of two, and a name from a width of three on. -/
def numberOrName (names : Names) (number width : Nat) : String :=
  if width ≤ 2 then padded number width else nameOf names (number - 1) width

/-- A day of the week by its place in the week up to a width of two, and by its name from a width of
three on. -/
def dayText (names : DayNames) (weeks : WeekRules) (weekday width : Nat) : String :=
  if width ≤ 2 then padded (weeks.dayNumber weekday) width else dayName names weekday width

/-- The name of a period of the day. -/
def periodText (names : PeriodNames) (period : DayPeriod) (letter : Char) (width : Nat) :
    Except DateFault String :=
  match names.nameOf? period width with
  | some name => .ok name
  | none => .error (.noName letter)

/-- A week or the year of a week, if the calendar has it. -/
def weekText (number : Option Nat) (write : Nat → String) : Except DateFault String :=
  match number with
  | some n => .ok (write n)
  | none => .error .beyondCalendar

/-- The digits of a second after its point, computed with floating-point numbers; the number of
digits has to be one that a power of ten exists for. -/
def fractionText (t : Clock) (width : Nat) : Except DateFault String :=
  match Double.ofRatio false (tenTo width) 1 with
  | .finite _ mantissa exponent =>
    let part := (Double.ofRatio false t.microsecond 1000000).roundPlaces width
    .ok (padded (part.mul (.finite false mantissa exponent)).floorAbs width)
  | _ => .error .tooFine

/-- The milliseconds of a day until a time. -/
def millisecondOf (t : Clock) : Nat :=
  ((t.hour * 60 + t.minute) * 60 + t.second) * 1000 + t.microsecond / 1000

/-- The text of a field. -/
def fieldText (c : Conventions) (r : RegionConventions) (t : Timestamp) (letter : Char)
    (width : Nat) : Except DateFault String :=
  let date := t.date
  let clock := t.clockOrMidnight
  let hour := clock.hour
  match letter with
  | 'G' => .ok (nameOf c.eras 1 width)
  | 'y' => .ok (yearText date.year width)
  | 'u' => .ok (yearText date.year width)
  | 'Y' => weekText (r.weeks.weekYear? date) fun year => yearText year width
  | 'Q' => .ok (numberOrName c.quarters date.quarter width)
  | 'q' => .ok (numberOrName c.quartersAlone date.quarter width)
  | 'M' => .ok (numberOrName c.months date.month width)
  | 'L' => .ok (numberOrName c.monthsAlone date.month width)
  | 'w' => weekText (r.weeks.weekOfYear? date) fun week => padded week width
  | 'W' => .ok (padded (r.weeks.weekOfMonth date) 1)
  | 'd' => .ok (padded date.day width)
  | 'D' => .ok (padded date.dayOfYear width)
  | 'F' => .ok (padded ((date.day - 1) / 7 + 1) 1)
  | 'E' => .ok (dayName c.days date.weekday width)
  | 'e' => .ok (dayText c.days r.weeks date.weekday width)
  | 'c' => .ok (dayText c.daysAlone r.weeks date.weekday width)
  | 'a' => periodText c.periodNames (DayPeriodRules.halfOf hour) letter width
  | 'b' => periodText c.periodNamesAlone (c.periods.periodOf clock) letter width
  | 'B' => periodText c.periodNames (c.periods.periodOf clock) letter width
  | 'h' => .ok (padded (if hour % 12 = 0 then 12 else hour % 12) width)
  | 'H' => .ok (padded hour width)
  | 'K' => .ok (padded (hour % 12) width)
  | 'k' => .ok (padded (if hour = 0 then 24 else hour) width)
  | 'm' => .ok (padded clock.minute width)
  | 's' => .ok (padded clock.second width)
  | 'S' => fractionText clock width
  | 'A' => .ok (padded (millisecondOf clock) width)
  | _ => .error (.unsupported letter)

/-- The text of a piece. -/
def pieceText (c : Conventions) (r : RegionConventions) (t : Timestamp) :
    DatePiece → Except DateFault String
  | .literal ch => .ok (String.ofList [ch])
  | .field letter width =>
    if !isSupported letter then .error (.unsupported letter)
    else if !allowsWidth letter width then .error (.badWidth letter width)
    else fieldText c r t letter width

/-- A date by a pattern. -/
def render (c : Conventions) (r : RegionConventions) (t : Timestamp) (pattern : String) :
    Except DateFault String :=
  ((pieces pattern).mapM (pieceText c r t)).map String.join

end DatePattern

end Parlance
