import Parlance.Assoc
import Parlance.Calendar.DayPeriod
import Parlance.Number.Pattern.Render

/-!
# Conventions of a language

How a language writes numbers and dates: its signs, its patterns, the names of months, days and
currencies, the shortened forms of great numbers, and the date patterns that it has for sets of
fields. Weeks begin with Monday in every list of days.
-/

namespace Parlance

open Parlance.Number

/-- Names in three lengths. -/
structure Names where
  abbreviated : List String
  wide : List String
  narrow : List String
deriving DecidableEq, Repr, Inhabited

/-- Names of days, which have a fourth length. -/
structure DayNames extends Names where
  short : List String
deriving DecidableEq, Repr, Inhabited

/-- How a number of at least a magnitude is shortened: the pattern for the quotient, which has as
many zeros as there are digits left before the point. -/
structure CompactForm where
  magnitude : Nat
  other : String
  /-- The pattern for quotients of the category `one`, if it is another. -/
  one : Option String
  /-- The pattern for a quotient of exactly one. -/
  exact : Option String
deriving DecidableEq, Repr, Inhabited

/-- The names of a currency: of the currency itself, and of amounts of it, for the category `one`
and for all others. -/
structure CurrencyNames where
  name : String
  one : Option String
  other : Option String
deriving DecidableEq, Repr, Inhabited

namespace CurrencyNames

/-- A currency with one name for all amounts. -/
def only (name : String) : CurrencyNames := ⟨name, none, none⟩

/-- A currency with a name for all amounts that is not its own. -/
def several (name other : String) : CurrencyNames := ⟨name, none, some other⟩

/-- A currency with a singular and a plural. -/
def counted (name one other : String) : CurrencyNames := ⟨name, some one, some other⟩

end CurrencyNames

/-- The writing conventions of a language. -/
structure Conventions where
  signs : NumberSigns
  /-- The standard pattern of plain numbers. A language may lack it, like each of the next ones. -/
  decimalPattern : Option String
  percentPattern : Option String
  scientificPattern : Option String
  currencyPattern : Option String
  compactShort : List CompactForm
  compactLong : Option (List CompactForm)
  compactCurrency : List CompactForm
  currencySigns : Assoc String
  currencyNames : Assoc CurrencyNames
  months : Names
  monthsAlone : Names
  days : DayNames
  daysAlone : DayNames
  quarters : Names
  quartersAlone : Names
  /-- The eras before and after the beginning of the calendar. -/
  eras : Names
  periods : DayPeriodRules
  periodNames : PeriodNames
  periodNamesAlone : PeriodNames
  mediumDate : String
  shortDate : String
  mediumTime : String
  shortTime : String
  /-- What stands between a date and a time in their medium forms. -/
  mediumSeparator : String
  /-- What stands between a date and a time in their short forms. -/
  shortSeparator : String
  /-- Date patterns by their skeletons. -/
  skeletons : Assoc String
deriving DecidableEq, Repr, Inhabited

namespace CompactForm

/-- The placeholders of a number of digits. -/
def zeros (n : Nat) : String := String.ofList (List.replicate n '0')

/-- The forms for the magnitudes from a power of ten on, with one digit more from each to the next:
the digits stand between two texts, and `one` gives the forms of the category `one`. -/
def ladder (power steps : Nat) (before after : String) (one : Nat → Option String) :
    List CompactForm :=
  (List.range steps).map fun k =>
    ⟨tenTo (power + k), before ++ zeros (k + 1) ++ after, one (k + 1), none⟩

/-- The forms that leave a number as it is, for the magnitudes from a power of ten on. -/
def unchanged (power steps : Nat) : List CompactForm :=
  (List.range steps).map fun k => ⟨tenTo (power + k), "0", none, none⟩

/-- Forms without a form of their own for the category `one`. -/
def plain (power steps : Nat) (before after : String) : List CompactForm :=
  ladder power steps before after fun _ => none

end CompactForm

end Parlance
