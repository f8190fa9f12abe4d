import Parlance.Calendar.Week
import Parlance.Conventions.English
import Parlance.Conventions.French
import Parlance.Conventions.German
import Parlance.Conventions.Japanese
import Parlance.Locale.Code

/-!
# Languages, regions and currencies

Which conventions a locale has, which currency is legal tender in a region, how its weeks are
counted, and to how many digits amounts of a currency are written.
-/

namespace Parlance

/-- What depends on the region of a locale. -/
structure RegionConventions where
  /-- The currency of amounts without a currency of their own, if the region is known. -/
  currency : Option String
  weeks : WeekRules
deriving DecidableEq, Repr, Inhabited

namespace RegionConventions

/-- Weeks from Monday on, with four days at least in the first one. -/
def isoWeeks : WeekRules := ⟨0, 4⟩

/-- Weeks from Sunday on, with any number of days in the first one. -/
def sundayWeeks : WeekRules := ⟨6, 1⟩

/-- The world at large: no currency, and weeks from Monday on with any number of days in the first
one. -/
def world : RegionConventions := ⟨none, ⟨0, 1⟩⟩

/-- The regions that locales can be given for. -/
def table : Assoc RegionConventions :=
  [("DE", ⟨some "EUR", isoWeeks⟩), ("FR", ⟨some "EUR", isoWeeks⟩),
   ("JP", ⟨some "JPY", sundayWeeks⟩), ("US", ⟨some "USD", sundayWeeks⟩)]

end RegionConventions

namespace Conventions

/-- The languages that numbers and dates can be written in, each with its regions. -/
def languages : Assoc (Conventions × List String) :=
  [("en", (english, ["US"])), ("de", (german, ["DE"])), ("fr", (french, ["FR"])),
   ("ja", (japanese, ["JP"]))]

/-- The conventions of a locale, if it is one of a known language and none but its regions. -/
def of? (code : LocaleCode) : Option (Conventions × RegionConventions) :=
  match Assoc.get? languages code.language, code.script, code.region with
  | some (conventions, _), none, none => some (conventions, .world)
  | some (conventions, regions), none, some region =>
    if regions.contains region then
      (Assoc.get? RegionConventions.table region).map fun r => (conventions, r)
    else none
  | _, _, _ => none

end Conventions

/-- The currencies whose amounts are not written with two digits, by the number of digits. -/
def currencyDigitTable : List (Nat × List String) :=
  [(0, ["ADP", "AFN", "ALL", "BIF", "BYR", "CLP", "DJF", "ESP", "GNF", "IQD", "IRR", "ISK", "ITL",
     "JPY", "KMF", "KPW", "KRW", "LAK", "LBP", "LUF", "MGA", "MGF", "MMK", "MRO", "PYG", "RWF",
     "SLL", "SOS", "STD", "SYP", "TMM", "TRL", "UGX", "UYI", "VND", "VUV", "XAF", "XOF", "XPF",
     "YER", "ZMK", "ZWD"]),
   (3, ["BHD", "JOD", "KWD", "LYD", "OMR", "TND"]),
   (4, ["CLF", "UYW"])]

/-- The number of digits that amounts of a currency are written with. -/
def currencyDigits (currency : String) : Nat :=
  match currencyDigitTable.find? fun entry => entry.2.contains currency with
  | some (digits, _) => digits
  | none => 2

end Parlance
