import Parlance.Locale.Code
import Parlance.Plural.Languages

/-!
# Plural categories of counts

Which category a count is of in a locale is a matter of locale data, which may come from anywhere:
`PluralData` has the rule of every locale that is known. `PluralData.categoryOf` is the category of
a count in any locale. Locales that are not known have the rule that the most languages share: one
thing is `one`, and everything else `other`.
-/

namespace Parlance

open Parlance.Number

/-- Locale data on plurals: what gives the name of the category of a count, or refuses the count,
for each locale code of a locale that is known. -/
abbrev PluralData := String → Option (Quantity → Except NumberFault String)

namespace PluralData

/-- Whether the absolute value of a count is one. -/
def isUnit? : Quantity → Except NumberFault Bool
  | .integer i => .ok (i.natAbs == 1)
  | .double x => .ok (x.eqInt 1 || x.eqInt (-1))
  | .decimal a => a.abs?.map (·.eqInt 1)
  | .written _ => .error .notNumeric

/-- The category of a count in a locale that is not known. -/
def general (n : Quantity) : Except NumberFault PluralCategory :=
  (isUnit? n).map fun unit => if unit then .one else .other

/-- The name of the category of a count in a locale. -/
def categoryOf (data : PluralData) (code : String) (n : Quantity) : Except NumberFault String :=
  match data code with
  | some rule => rule n
  | none => (general n).map PluralCategory.name

end PluralData

namespace PluralCategory

/-- The category of a count by the rules of a language. -/
def byRules (rules : List PluralRule) (n : Quantity) : Except NumberFault PluralCategory := do
  PluralRule.choose (← PluralOperands.of? n) rules

/-- The plural rules of a locale: those of its regional form, or of its language. -/
def rulesOf? (code : LocaleCode) : Option (List PluralRule) :=
  (pluralRules? code.tag).or (pluralRules? code.language)

end PluralCategory

/-- The locale data of the rules that are listed by language. Of a locale code only the language is
looked up, whether there is such a regional form or not. -/
def PluralData.listed : PluralData := fun code =>
  ((LocaleCode.ofText? code).bind PluralCategory.rulesOf?).map fun rules n =>
    (PluralCategory.byRules rules n).map PluralCategory.name

end Parlance
