import Parlance.Conventions.Region
import Parlance.Log
import Parlance.Plural

/-!
# Formatters

A formatter writes numbers and dates for one locale. What it knows of the locale comes from a
`LocaleSource`, which may be any that knows American English. A code that names no locale of the
source gets the formatter of American English, and a warning.
-/

namespace Parlance

/-- What is needed to write numbers and dates for a locale. -/
structure LocaleData where
  /-- The locale that is written for. -/
  locale : LocaleCode
  conventions : Conventions
  region : RegionConventions
  rules : List PluralRule
deriving DecidableEq, Repr, Inhabited

/-- The code of the locale that stands in for those that are not known. -/
def fallbackCode : String := "en_US"

/-- Where the data of locales comes from: that of every locale that is known, by its code. -/
structure LocaleSource where
  find? : String → Option LocaleData
  /-- The data that stands in for that of locales that are not known. -/
  american : LocaleData
  find?_american : find? fallbackCode = some american

/-- The locales that are listed, by language and region. -/
def LocaleSource.findListed? (code : String) : Option LocaleData := do
  let locale ← LocaleCode.ofText? code
  let (conventions, region) ← Conventions.of? locale
  some ⟨locale, conventions, region, (PluralCategory.rulesOf? locale).getD []⟩

/-- The source of the locales that are listed. -/
def LocaleSource.listed : LocaleSource where
  find? := findListed?
  american := (findListed? fallbackCode).getD default
  find?_american := rfl

/-- The data that numbers and dates are written by, and what it was asked for by. -/
structure Formatter extends LocaleData where
  /-- The code asked for. -/
  code : String
  /-- Whether the locale stands in for one that is not known. -/
  isFallback : Bool
deriving DecidableEq, Repr, Inhabited

namespace Formatter

/-- The currency where no region says which one. -/
def fallbackCurrency : String := "USD"

/-- The formatter of a locale code. -/
def create {ε : Type} (source : LocaleSource) (code : String) : Logged ε Formatter :=
  match source.find? code with
  | some data => .pure { data with code, isFallback := false }
  | none => do
    Logged.log ⟨.warning, .formatting,
      s!"Unknown locale '{code}'. Falling back to {fallbackCode}"⟩
    pure { source.american with code, isFallback := true }

/-- The currency of the locale's region. -/
def defaultCurrency (f : Formatter) : String := f.region.currency.getD fallbackCurrency

end Formatter

end Parlance
