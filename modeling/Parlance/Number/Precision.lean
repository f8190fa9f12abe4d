import Parlance.Number.Decimal
import Parlance.Number.Fault

/-!
# Decimal arithmetic of limited precision

Results keep `precision` digits, rounded half to even, and their first digit is at a power of ten up
to `greatestPower`. A greater one is a fault; one below `leastPower` loses digits at
`leastExponent`, down to zero. `quantized?` refuses a result that would need more digits.
-/

namespace Parlance.Number.Decimal

/-- The number of significant digits that arithmetic keeps. -/
def precision : Nat := 28

/-- The greatest power of ten of a first digit. -/
def greatestPower : Int := 999999

/-- The least power of ten of the first digit of a number with all its digits. -/
def leastPower : Int := -999999

/-- The least power of ten of a last digit. -/
def leastExponent : Int := leastPower - precision + 1

/-- The number with no more digits than the precision, rounded half to even. -/
def limit (d : Decimal) : Decimal :=
  let excess := digitCount d.coefficient - precision
  if excess = 0 then d
  else
    let r := d.roundTo (d.exponent + excess)
    -- a carry into a new digit leaves a final zero to drop
    if digitCount r.coefficient ≤ precision then r
    else ⟨r.negative, r.coefficient / 10, r.exponent + 1⟩

/-- The number as the result of an operation. -/
def fitted? (d : Decimal) : Except NumberFault Decimal :=
  if d.coefficient = 0 then
    .ok { d with exponent := max leastExponent (min greatestPower d.exponent) }
  else if greatestPower < d.adjusted then .error .tooGreat
  else if d.adjusted < leastPower then
    .ok (if d.exponent < leastExponent then d.roundTo leastExponent else d)
  else
    let r := d.limit
    if greatestPower < r.adjusted then .error .tooGreat else .ok r

/-- The product with a power of ten. -/
def scaled? (d : Decimal) (power : Int) : Except NumberFault Decimal := (d.shift power).fitted?

/-- The number without final zeros, as the result of an operation. -/
def normalized? (d : Decimal) : Except NumberFault Decimal := d.fitted?.map stripped

/-- Rounding to a power of ten; there is no result when it has more digits than the precision. -/
def quantized? (d : Decimal) (exponent : Int) : Except NumberFault Decimal :=
  if greatestPower < exponent || exponent < leastExponent then .error .noResult
  -- a first digit so far to the left needs no computation
  else if d.coefficient != 0 && (precision : Int) < d.adjusted - exponent + 1 then .error .noResult
  else
    let r := d.roundTo exponent
    if precision < digitCount r.coefficient || greatestPower < r.adjusted then .error .noResult
    else .ok r

/-- The quotient by a positive whole number, rounded half to even at the precision; an exact
quotient keeps no more final zeros than the dividend brings. -/
def divided? (d : Decimal) (n : Nat) : Except NumberFault Decimal :=
  if d.coefficient = 0 then d.fitted?
  else
    let lift := precision + digitCount n + 1
    let raised := d.coefficient * tenTo lift
    if raised % n = 0 then
      -- the dividend's exponent is the one to come back to
      let (q, e) := stripZeros lift (raised / n) (d.exponent - lift)
      fitted? ⟨d.negative, q, e⟩
    else
      -- a remainder marks the quotient so that no false tie arises
      fitted? ⟨d.negative, raised / n * 10 + 1, d.exponent - lift - 1⟩

end Parlance.Number.Decimal
