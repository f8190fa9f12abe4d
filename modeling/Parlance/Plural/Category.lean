import Parlance.Number.Quantity

/-!
# Plural categories and operands

Languages sort counts into at most six categories. The rules look at a count through its operands:
its whole value, its integer part, and the digits after its point. `PluralOperands.of?` takes them
from a quantity; an integer, and a floating-point number that equals one, has no digits after the
point.
-/

namespace Parlance

open Parlance.Number

/-- A plural category. -/
inductive PluralCategory where
  | zero
  | one
  | two
  | few
  | many
  | other
deriving DecidableEq, Repr, Inhabited

namespace PluralCategory

/-- The name of a category, as it stands in front of a branch. -/
def name : PluralCategory → String
  | zero => "zero"
  | one => "one"
  | two => "two"
  | few => "few"
  | many => "many"
  | other => "other"

/-- All categories. -/
def all : List PluralCategory := [zero, one, two, few, many, other]

/-- The category of a name. -/
def ofName? (s : String) : Option PluralCategory := all.find? (·.name == s)

end PluralCategory

/-- What plural rules know of a count. -/
structure PluralOperands where
  /-- The absolute value, if it is a whole number. -/
  whole : Option Nat
  /-- Whether the absolute value is a decimal, and remainders of it have the limits of decimal
  arithmetic. -/
  isDecimal : Bool
  /-- The integer part. -/
  integer : Nat
  /-- The number of digits after the point. -/
  places : Nat
  /-- The digits after the point as a number. -/
  fraction : Nat
  /-- The same without final zeros. -/
  trimmed : Nat
deriving DecidableEq, Repr, Inhabited

namespace PluralOperands

/-- The operands of a whole number without a fraction. -/
def ofNat (n : Nat) : PluralOperands := ⟨some n, false, n, 0, 0, 0⟩

/-- A number without its final zeros. -/
def trimZeros (n : Nat) : Nat := (Decimal.stripZeros (Decimal.digitCount n) n 0).1

/-- The operands of a decimal. Only digits of the coefficient count as digits after the point, not
the zeros that stand between the point and a coefficient that is too short to reach it. -/
def ofDecimal (d : Decimal) : PluralOperands :=
  let places := min d.fractionDigits (Decimal.digitCount d.coefficient)
  let fraction := d.coefficient % tenTo places
  ⟨if d.isWhole then some d.floorAbs else none, true, d.floorAbs,
    if 0 ≤ d.exponent then 0 else places, fraction, trimZeros fraction⟩

/-- The operands of an amount, which has to be finite. -/
def ofAmount? (a : Amount) : Except NumberFault PluralOperands := do
  match ← a.abs? with
  | .finite d => pure (ofDecimal d)
  | .infinite _ => .error .unbounded
  | .notANumber .. => .error (.undefined "NaN")

/-- The operands of a quantity. -/
def of? : Quantity → Except NumberFault PluralOperands
  | .integer i => .ok (ofNat i.natAbs)
  | .double (.finite negative mantissa exponent) =>
    let x := Double.finite negative mantissa exponent
    .ok (if x.isWhole then ofNat x.floorAbs
      else ofDecimal (Double.toDecimal false mantissa exponent))
  | .double (.infinite _) => .error .unbounded
  | .double .notANumber => .error (.undefined "float NaN")
  | .decimal a => ofAmount? a
  | .written _ => .error .notNumeric

end PluralOperands

end Parlance
