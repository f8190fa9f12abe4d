import Parlance.Conventions.Basic
import Parlance.Number.Pattern.Fraction
import Parlance.Plural
import Parlance.Text.Case

/-!
# Currencies in number patterns

Where a number pattern has a currency sign `¤`, the sign of the currency is written, its code where
there are two, and the name of the amount where there are three. A sign of one's own goes into the
pattern as a quoted text.
-/

namespace Parlance

open Parlance.Number Parlance.Text

namespace Currency

/-- The placeholder of a currency sign in a pattern. -/
def sign : Char := '¤'

/-- A text between apostrophes, with each apostrophe in it doubled. -/
def quotedText (s : List Char) : List Char :=
  '\'' :: s.flatMap (fun c => if c = '\'' then ['\'', '\''] else [c]) ++ ['\'']

/-- A pattern with a text of one's own in the place of every currency sign. -/
def withSymbolChars (symbol : List Char) (pattern : List Char) : List Char :=
  pattern.flatMap fun c => if c = sign then quotedText symbol else [c]

/-- A pattern with a text of one's own in the place of every currency sign. -/
def withSymbol (pattern symbol : String) : String :=
  String.ofList (withSymbolChars symbol.toList pattern.toList)

/-- The pattern for amounts with a symbol and a number of digits of one's own: the symbol goes into
the standard pattern first, and then the digits are set. -/
def customPattern (fits : Nat → Bool) (standard : String) (symbol : Option String)
    (digits : Option Int) : Except NumberFault String :=
  let signed := match symbol with
    | some s => withSymbol standard s
    | none => standard
  match digits with
  | some n => withFractionDigits? fits signed n
  | none => .ok signed

/-- The sign of a currency in a language: its code, if it has none. -/
def signOf (c : Conventions) (code : String) : String := (Assoc.get? c.currencySigns code).getD code

/-- The category of an amount; an amount without a bound, or that is no number, is of the category
`other`. -/
def categoryOf (rules : List PluralRule) (a : Amount) : Except NumberFault PluralCategory :=
  match PluralCategory.byRules rules (.decimal a) with
  | .error .unbounded => .ok .other
  | .error (.undefined _) => .ok .other
  | result => result

/-- The name of an amount of a currency: by the category of the amount, or for all amounts, or that
of the currency itself, or its code. -/
def nameOf (c : Conventions) (code : String) (category : PluralCategory) : String :=
  match Assoc.get? c.currencyNames code with
  | none => code
  | some names =>
    let counted := if category = .one then names.one.or names.other else names.other
    counted.getD names.name

/-- A text with another one in the place of each stretch of characters; the fuel is the number of
characters. -/
def replaceRun (run other : List Char) : Nat → List Char → List Char
  | 0, s => s
  | _, [] => []
  | fuel + 1, c :: rest =>
    if run.isPrefixOf (c :: rest) then
      other ++ replaceRun run other fuel ((c :: rest).drop run.length)
    else c :: replaceRun run other fuel rest

/-- A text with another one in the place of a number of currency signs. -/
def replaceSigns (count : Nat) (other s : List Char) : List Char :=
  replaceRun (List.replicate count sign) other s.length s

/-- A number's text with the name, the code and the sign of a currency, which are written in this
order, so that a currency sign in a name or a code is replaced as well. -/
def dress (c : Conventions) (code : String) (category : PluralCategory) (s : List Char) :
    List Char :=
  let named := replaceSigns 3 (nameOf c code category).toList s
  let coded := replaceSigns 2 (upper code).toList named
  replaceSigns 1 (signOf c code).toList coded

end Currency

end Parlance
