import Parlance.Number.Digits
import Parlance.Number.Rounding

/-!
# Exact decimal numbers

A `Decimal` is a signed coefficient and a power of ten, so that `1.50` and `1.5` are different
decimals of one value. What is here is exact but for `roundTo`; arithmetic that keeps a limited
number of digits is in `Number.Precision`.
-/

namespace Parlance.Number

/-- The decimal `coefficient · 10 ^ exponent`, negated if `negative`. -/
structure Decimal where
  negative : Bool
  coefficient : Nat
  exponent : Int
deriving DecidableEq, Repr, Inhabited

namespace Decimal

/-- The number of digits of the coefficient; zero has one. -/
def digitCount (n : Nat) : Nat := (decimalDigits n).length

/-- A whole number. -/
def ofInt (i : Int) : Decimal := ⟨i < 0, i.natAbs, 0⟩

/-- The power of ten of the first digit. -/
def adjusted (d : Decimal) : Int := d.exponent + (digitCount d.coefficient : Int) - 1

/-- The number of digits after the point as written. -/
def fractionDigits (d : Decimal) : Nat := (-d.exponent).toNat

/-- The value as numerator and denominator of its absolute value. -/
def ratio (d : Decimal) : Nat × Nat :=
  (d.coefficient * tenTo d.exponent.toNat, tenTo (-d.exponent).toNat)

/-- The integer part of the absolute value. -/
def floorAbs (d : Decimal) : Nat :=
  if d.coefficient = 0 || d.adjusted < 0 then 0 else d.ratio.1 / d.ratio.2

/-- Whether the value is a whole number; a number below one is whole only if it is zero. -/
def isWhole (d : Decimal) : Bool :=
  d.coefficient == 0 || 0 ≤ d.exponent || (0 ≤ d.adjusted && d.ratio.1 % d.ratio.2 == 0)

/-- Whether the value equals an integer. Two numbers that are not zero can only be equal if their
first digits are at the same power of ten. -/
def eqInt (d : Decimal) (i : Int) : Bool :=
  if d.coefficient = 0 then i == 0
  else d.adjusted + 1 == (digitCount i.natAbs : Int) && d.isWhole &&
    (if d.negative then -(d.floorAbs : Int) else (d.floorAbs : Int)) == i

/-- Whether the absolute value is at least a natural number; the powers of ten of the first digits
decide unless they are the same. -/
def absAtLeast (d : Decimal) (n : Nat) : Bool :=
  let power : Int := digitCount n - 1
  if n = 0 then true
  else if d.coefficient = 0 || d.adjusted < power then false
  else power < d.adjusted || n * d.ratio.2 ≤ d.ratio.1

/-- The absolute value. -/
def abs (d : Decimal) : Decimal := { d with negative := false }

/-- The number moved by a power of ten. -/
def shift (d : Decimal) (places : Int) : Decimal := { d with exponent := d.exponent + places }

/-- The number with its least digit at a given power of ten, rounded half to even. -/
def roundTo (d : Decimal) (exponent : Int) : Decimal :=
  let dropped := (exponent - d.exponent).toNat
  -- a zero stays one, and of a number that loses more than all its digits nothing is left
  if d.coefficient = 0 || digitCount d.coefficient < dropped then ⟨d.negative, 0, exponent⟩
  else if exponent ≤ d.exponent then
    ⟨d.negative, d.coefficient * tenTo (d.exponent - exponent).toNat, exponent⟩
  else ⟨d.negative, divHalfEven d.coefficient (tenTo dropped), exponent⟩

/-- Removes final zeros of the coefficient, as many as the fuel allows. -/
def stripZeros : Nat → Nat → Int → Nat × Int
  | 0, n, e => (n, e)
  | fuel + 1, n, e => if n != 0 && n % 10 == 0 then stripZeros fuel (n / 10) (e + 1) else (n, e)

/-- The number without final zeros; zero has exponent zero. -/
def stripped (d : Decimal) : Decimal :=
  if d.coefficient = 0 then ⟨d.negative, 0, 0⟩
  else
    let (n, e) := stripZeros (digitCount d.coefficient) d.coefficient d.exponent
    ⟨d.negative, n, e⟩

/-- The digits after the point, then those before it, of a coefficient with a number of places. -/
def placed (coefficient places : Nat) : List Char × List Char :=
  let digits := paddedDecimal (places + 1) coefficient
  (digits.take (digits.length - places), digits.drop (digits.length - places))

/-- The digits before and after the point, without an exponent. -/
def plainDigits (d : Decimal) : List Char × List Char :=
  if 0 ≤ d.exponent then (decimalDigits (d.coefficient * tenTo d.exponent.toNat), [])
  else placed d.coefficient d.fractionDigits

/-- The text of a decimal: positional when no digit is missing before the point and the first digit
is at `10 ^ -6` or above, else with one digit before the point and an exponent. -/
def text (d : Decimal) : String :=
  let sign := if d.negative then ['-'] else []
  let body :=
    if d.exponent ≤ 0 && -6 ≤ d.adjusted then
      -- small exponents are written out
      let (whole, fraction) := d.plainDigits
      whole ++ (if fraction.isEmpty then [] else '.' :: fraction)
    else
      match decimalDigits d.coefficient with
      | [] => []
      | first :: rest =>
        first :: (if rest.isEmpty then [] else '.' :: rest) ++ ['E'] ++
          (if d.adjusted < 0 then [] else ['+']) ++ (intText d.adjusted).toList
  String.ofList (sign ++ body)

/-- Splits a sign off a numeral. -/
def takeSign : List Char → Bool × List Char
  | '-' :: rest => (true, rest)
  | '+' :: rest => (false, rest)
  | rest => (false, rest)

/-- Reads a numeral: an optional sign, digits with at most one point, and an optional exponent. -/
def ofChars? (s : List Char) : Option Decimal :=
  let (negative, s) := takeSign s
  let mantissa := s.takeWhile fun c => c != 'e' && c != 'E'
  let rest := s.drop mantissa.length
  let whole := mantissa.takeWhile (· != '.')
  let fraction := (mantissa.drop whole.length).drop 1
  -- an exponent has digits, if there is one
  let exponent? : Option Int :=
    match rest with
    | [] => some 0
    | _ :: e =>
      let (minus, digits) := takeSign e
      (ofDigits? digits).map fun n => if minus then -(n : Int) else (n : Int)
  match ofDigits? (whole ++ fraction), exponent? with
  | some n, some e => some ⟨negative, n, e - (fraction.length : Int)⟩
  | _, _ => none

end Decimal

end Parlance.Number
