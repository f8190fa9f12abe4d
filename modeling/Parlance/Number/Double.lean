import Parlance.Number.Decimal

/-!
# Floating-point numbers

A `Double` is a binary floating-point number of 53 bits, kept as an exact `mantissa · 2 ^ exponent`
so that every operation is a computation on natural numbers. `ofRatio` is the nearest number to a
quotient, and `text` is the shortest decimal that reads back: positional while the first digit is at
a power of ten from -4 to 15, with an exponent outside.
-/

namespace Parlance.Number

/-- A floating-point number; in a finite one the mantissa is below `2 ^ 53`, and at least `2 ^ 52`
unless the exponent is -1074. -/
inductive Double where
  | finite (negative : Bool) (mantissa : Nat) (exponent : Int)
  | infinite (negative : Bool)
  | notANumber
deriving DecidableEq, Repr, Inhabited

namespace Double

/-- The mantissa that is one too great, `2 ^ 53`. -/
def mantissaLimit : Nat := 0x20000000000000

/-- The least mantissa of a number with all its bits, `2 ^ 52`. -/
def leastNormal : Nat := 0x10000000000000

/-- The exponent of the least positive number. -/
def leastExponent : Int := -1074

/-- The greatest exponent of a finite number. -/
def greatestExponent : Int := 971

/-- The quotient of `num` and `den · 2 ^ exponent`, as numerator and denominator. -/
def scaledRatio (num den : Nat) (exponent : Int) : Nat × Nat :=
  (num * twoTo (-exponent).toNat, den * twoTo exponent.toNat)

/-- The nearest number to `num / den`, a tie going to the even mantissa. -/
def ofRatio (negative : Bool) (num den : Nat) : Double :=
  if num = 0 then .finite negative 0 leastExponent
  else
    -- at this exponent the quotient has 53 or 54 bits, and with 54 it needs the next one
    let estimate : Int := (num.log2 : Int) - (den.log2 : Int) - 53
    let (n, d) := scaledRatio num den estimate
    let exact := if mantissaLimit ≤ n / d then estimate + 1 else estimate
    let exponent := max exact leastExponent
    let (n, d) := scaledRatio num den exponent
    let m := divHalfEven n d
    -- rounding up may need a bit more, which is then followed by zeros
    let (m, exponent) := if m = mantissaLimit then (leastNormal, exponent + 1) else (m, exponent)
    if greatestExponent < exponent then .infinite negative else .finite negative m exponent

/-- The nearest number to a decimal. -/
def ofDecimal (d : Decimal) : Double :=
  -- beyond these powers of ten the answer is an infinity or a zero
  if d.coefficient = 0 then .finite d.negative 0 leastExponent
  else if 400 < d.adjusted then .infinite d.negative
  else if d.adjusted < -400 then .finite d.negative 0 leastExponent
  else ofRatio d.negative d.ratio.1 d.ratio.2

/-- The absolute value of a finite number as numerator and denominator. -/
def ratioOf (mantissa : Nat) (exponent : Int) : Nat × Nat :=
  (mantissa * twoTo exponent.toNat, twoTo (-exponent).toNat)

/-- The power of ten of the first digit of a positive quotient. -/
def leadingPower (num den : Nat) : Int :=
  if den ≤ num then (Decimal.digitCount (num / den) : Int) - 1
  else
    match (List.range 400).find? fun j => den ≤ num * tenTo (j + 1) with
    | some j => -((j : Int) + 1)
    | none => 0

/-- The decimal of `count` digits that lies in the interval from `low` to `high` (numerators over a
common `den`) and is nearest to `value`, if there is one; the ends count if `closed`. -/
def nearestOfLength (value low high den : Nat) (closed : Bool) (power : Int) (count : Nat) :
    Option Decimal :=
  let grid : Int := power + 1 - (count : Int)
  let up := tenTo (-grid).toNat
  let down := den * tenTo grid.toNat
  let inside (c : Nat) : Bool :=
    if closed then low * up ≤ c * down && c * down ≤ high * up
    else low * up < c * down && c * down < high * up
  let below := value * up / down
  let above := below + 1
  let candidate (c : Nat) : Option Decimal := some ⟨false, c, grid⟩
  -- of two candidates the nearer one is taken, and at equal distance the even one
  match inside below, inside above with
  | true, false => candidate below
  | false, true => candidate above
  | false, false => none
  | true, true =>
    let gapBelow := value * up - below * down
    let gapAbove := above * down - value * up
    if gapBelow < gapAbove then candidate below
    else if gapAbove < gapBelow then candidate above
    else candidate (if below % 2 = 0 then below else above)

/-- The shortest decimal that reads back as the given positive number, nearest to it of those. -/
def shortest (mantissa : Nat) (exponent : Int) : Decimal :=
  -- quarters of the last place, so that half the smaller gap below a power of two is whole
  let (unit, den) := ratioOf 1 (exponent - 2)
  let value := 4 * mantissa * unit
  let high := (4 * mantissa + 2) * unit
  let low :=
    if mantissa = leastNormal && exponent != leastExponent then (4 * mantissa - 1) * unit
    else (4 * mantissa - 2) * unit
  let power := leadingPower value den
  let found := (List.range 17).findSome? fun k =>
    nearestOfLength value low high den (mantissa % 2 == 0) power (k + 1)
  (found.getD ⟨false, value, 0⟩).stripped

/-- The decimal whose digits the text of a finite number shows, without final zeros. -/
def toDecimal (negative : Bool) (mantissa : Nat) (exponent : Int) : Decimal :=
  if mantissa = 0 then ⟨negative, 0, 0⟩
  else { shortest mantissa exponent with negative := negative }

/-- The decimal that the text of a finite number is read as: a whole number has one digit after the
point, unless it is written with an exponent. -/
def writtenDecimal (negative : Bool) (mantissa : Nat) (exponent : Int) : Decimal :=
  let d := toDecimal negative mantissa exponent
  if 0 ≤ d.exponent && d.adjusted < 16 then d.roundTo (-1) else d

/-- The text of a decimal in the notation of floating-point numbers: positional while the first
digit is at a power from -4 to 15, always with a digit after the point; else one digit before the
point and an exponent of at least two digits. -/
def floatText (d : Decimal) : String :=
  let sign := if d.negative then ['-'] else []
  let power := d.adjusted
  let body :=
    if -4 ≤ power && power < 16 then
      -- there is a digit behind the point
      let (whole, fraction) := d.plainDigits
      whole ++ '.' :: (if fraction.isEmpty then ['0'] else fraction)
    else
      match decimalDigits d.coefficient with
      | [] => []
      | first :: rest =>
        first :: (if rest.isEmpty then [] else '.' :: rest) ++ ['e'] ++
          (if power < 0 then ['-'] else ['+']) ++ paddedDecimal 2 power.natAbs
  String.ofList (sign ++ body)

/-- The shortest text that reads back as the number. -/
def text : Double → String
  | .finite negative mantissa exponent => floatText (toDecimal negative mantissa exponent)
  | .infinite negative => if negative then "-inf" else "inf"
  | .notANumber => "nan"

/-- Whether the number is a whole number. -/
def isWhole : Double → Bool
  | .finite _ mantissa exponent =>
    let (num, den) := ratioOf mantissa exponent
    num % den == 0
  | _ => false

/-- The integer part of a finite number's absolute value. -/
def floorAbs : Double → Nat
  | .finite _ mantissa exponent =>
    let (num, den) := ratioOf mantissa exponent
    num / den
  | _ => 0

/-- The number with the other sign. -/
def negate : Double → Double
  | .finite negative mantissa exponent => .finite (!negative) mantissa exponent
  | .infinite negative => .infinite (!negative)
  | .notANumber => .notANumber

/-- The sum of two numbers, rounded to the nearest; opposite infinities have none. -/
def add : Double → Double → Double
  | .finite s m e, .finite t n f =>
    let (a, b) := ratioOf m e
    let (c, d) := ratioOf n f
    -- both sides over one denominator
    let x := a * d
    let y := c * b
    if s == t then ofRatio s (x + y) (b * d)
    else if y < x then ofRatio s (x - y) (b * d)
    else if x < y then ofRatio t (y - x) (b * d)
    else ofRatio false 0 1
  | .infinite s, .infinite t => if s == t then .infinite s else .notANumber
  | .infinite s, .finite .. => .infinite s
  | .finite .., .infinite t => .infinite t
  | .notANumber, _ => .notANumber
  | _, .notANumber => .notANumber

/-- The product of two numbers, rounded to the nearest; zero times an infinity has none. -/
def mul : Double → Double → Double
  | .finite s m e, .finite t n f =>
    let (a, b) := ratioOf m e
    let (c, d) := ratioOf n f
    ofRatio (s != t) (a * c) (b * d)
  | .infinite s, .infinite t => .infinite (s != t)
  | .infinite s, .finite t n _ => if n = 0 then .notANumber else .infinite (s != t)
  | .finite s m _, .infinite t => if m = 0 then .notANumber else .infinite (s != t)
  | .notANumber, _ => .notANumber
  | _, .notANumber => .notANumber

/-- The nearest number to the value rounded half to even at a number of decimal places; the value
itself is exact, so a tie is one of binary fractions. -/
def roundPlaces : Double → Int → Double
  | .finite negative mantissa exponent, places =>
    let (num, den) := ratioOf mantissa exponent
    let up := tenTo places.toNat
    let down := tenTo (-places).toNat
    ofRatio negative (divHalfEven (num * up) (den * down) * down) up
  | other, _ => other

/-- Reads a decimal numeral as the nearest number. -/
def ofChars? (s : List Char) : Option Double := (Decimal.ofChars? s).map ofDecimal

end Double

end Parlance.Number
