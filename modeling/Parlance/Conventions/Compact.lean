import Parlance.Conventions.Basic
import Parlance.Conventions.Currency
import Parlance.Plural
import Parlance.Text.Blank

/-!
# Shortened numbers

A great number is shortened to a quotient of few digits and a word or letter for its magnitude. The
form of the greatest magnitude that the number reaches is taken; a number below all of them, and one
whose form is a bare digit, stays as it is.
-/

namespace Parlance

open Parlance.Number Parlance.Text

namespace CompactForm

/-- The form of the greatest magnitude that an amount reaches, from forms in descending order. -/
def reached? (d : Decimal) (forms : List CompactForm) : Except NumberFault (Option CompactForm) :=
  d.abs.fitted?.map fun size => forms.find? fun form => size.absAtLeast form.magnitude

/-- What a number is divided by for a form: as many digits are left before the point as the form has
placeholders. -/
def divisor (form : CompactForm) : Nat := form.magnitude / tenTo (form.other.toList.count '0' - 1)

/-- The pattern of a form for a quotient: where some form has a pattern for exactly one, all do, and
it is the general one where it is not given. -/
def patternFor (forms : List CompactForm) (form : CompactForm) (quotient : Decimal)
    (category : PluralCategory) : String :=
  if quotient.eqInt 1 && forms.any (·.exact.isSome) then form.exact.getD form.other
  else if category = .one then form.one.getD form.other
  else form.other

/-- An amount shortened to a number of places, and the pattern for it; no pattern if the amount is
below all magnitudes, or is no decimal. -/
def shorten (rules : List PluralRule) (forms : List CompactForm) (places : Except NumberFault Int) :
    Amount → Except NumberFault (Amount × Option String)
  | .finite d => do
    match ← reached? d forms.reverse with
    | none => pure (.finite d, none)
    | some form =>
      if form.other = "0" then pure (.finite d, some form.other)
      else
        let quotient ← d.divided? form.divisor
        let rounded ← quotient.quantized? (-(← places))
        -- the category is that of the quotient before it is rounded
        let category ← PluralCategory.byRules rules (.decimal (.finite quotient.abs))
        pure (.finite rounded, some (patternFor forms form quotient category))
  | other => pure (other, none)

/-- A run of white space reduced to its first character. -/
def squeeze : List Char → List Char
  | a :: b :: rest =>
    if isBlank a && isBlank b then squeeze (a :: rest) else a :: squeeze (b :: rest)
  | s => s
termination_by s => s.length

/-- The pattern for an amount that is not shortened: that of the first form with a currency sign,
with nothing left but digits, white space and the sign. -/
def plainCurrencyPattern? (forms : List CompactForm) : Option String :=
  (forms.find? (·.other.toList.contains Currency.sign)).map fun form =>
    String.ofList (trimBlanks (squeeze (form.other.toList.filter fun c =>
      c == '0' || c == Currency.sign || isBlank c)))

end CompactForm

end Parlance
