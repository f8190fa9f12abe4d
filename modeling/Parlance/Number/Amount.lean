import Parlance.Number.Precision
import Parlance.Text.Blank
import Parlance.Text.Digit

/-!
# Amounts

An amount is what can be written out as a number: a decimal, an infinity, or no number at all. What
is no number may carry digits of its own, and may be signaling, when no operation accepts it.
`Amount.ofText?` reads the text that `Amount.text` writes, and numerals in the digits of any script.
-/

namespace Parlance.Number

open Parlance.Text

/-- A number to be written out. -/
inductive Amount where
  | finite (d : Decimal)
  | infinite (negative : Bool)
  | notANumber (negative signaling : Bool) (payload : Nat)
deriving DecidableEq, Repr, Inhabited

namespace Amount

/-- The greatest power of ten of the first digit of an amount that can be read. -/
def greatestReadPower : Int := 999999999999999999

/-- The least power of ten of the last digit of an amount that can be read. -/
def leastReadExponent : Int := -1999999999999999997

/-- Whether a decimal is small enough, and fine enough, to be read. -/
def isReadable (d : Decimal) : Bool :=
  leastReadExponent ≤ d.exponent && d.adjusted ≤ greatestReadPower

/-- Reads what stands for no number: `nan`, in front of which an `s` makes it signaling, and digits
of its own. The text is in lower case. -/
def nanOfChars? (negative : Bool) (s : List Char) : Option Amount :=
  let (signaling, rest) := match s with
    | 's' :: rest => (true, rest)
    | rest => (false, rest)
  match rest with
  | 'n' :: 'a' :: 'n' :: digits =>
    if digits.isEmpty then some (.notANumber negative signaling 0)
    else (ofDigits? digits).map (.notANumber negative signaling)
  | _ => none

/-- Reads a numeral of ASCII digits, the names of infinity and of no number included. -/
def ofChars? (s : List Char) : Option Amount :=
  let (negative, body) := Decimal.takeSign s
  let name := body.map Char.toLower
  if name == "inf".toList || name == "infinity".toList then some (.infinite negative)
  else (nanOfChars? negative name).or
    (((Decimal.ofChars? s).filter isReadable).map .finite)

/-- Reads a numeral in digits of any script, with white space around it and underscores within. -/
def ofText? (s : String) : Option Amount :=
  ofChars? (withAsciiDigits ((trimBlanks s.toList).filter (· != '_')))

/-- The text of an amount. -/
def text : Amount → String
  | finite d => d.text
  | infinite negative => if negative then "-Infinity" else "Infinity"
  | notANumber negative signaling payload =>
    (if negative then "-" else "") ++ (if signaling then "sNaN" else "NaN") ++
      (if payload = 0 then "" else String.ofList (decimalDigits payload))

/-- Whether the amount has a minus sign; zeros and what is no number may have one. -/
def isNegative : Amount → Bool
  | finite d => d.negative
  | infinite negative => negative
  | notANumber negative _ _ => negative

/-- Whether an amount equals an integer. -/
def eqInt : Amount → Int → Bool
  | finite d, i => d.eqInt i
  | _, _ => false

/-- The amount as the result of an operation; what is no number keeps its sign, and of its own
digits the last ones. -/
def fitted? : Amount → Except NumberFault Amount
  | finite d => d.fitted?.map finite
  | infinite negative => .ok (infinite negative)
  | notANumber _ true _ => .error .noResult
  | notANumber negative false payload =>
    .ok (notANumber negative false (payload % tenTo Decimal.precision))

/-- The absolute value, as the result of an operation. -/
def abs? : Amount → Except NumberFault Amount
  | finite d => d.abs.fitted?.map finite
  | infinite _ => .ok (infinite false)
  | other => other.fitted?

/-- The product with a power of ten. -/
def scaled? (power : Int) : Amount → Except NumberFault Amount
  | finite d => (d.scaled? power).map finite
  | other => other.fitted?

end Amount

end Parlance.Number
