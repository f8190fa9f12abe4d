import Parlance.Number.Amount
import Parlance.Number.Pattern.Parse

/-!
# Writing a number by a pattern

`NumberPattern.render` writes an amount: sign and surrounding text from the pattern, digits grouped
and rounded half to even, or in scientific notation. What is no number is written by its name, as if
its letters were digits before the point. The result still has its currency signs and apostrophes;
`unquote` takes the apostrophes off.
-/

namespace Parlance.Number

/-- The signs that a language writes numbers with. -/
structure NumberSigns where
  point : String
  group : String
  exponent : String
  infinity : String
deriving DecidableEq, Repr, Inhabited

/-- How many digits follow the point. -/
inductive Places where
  /-- As many as the pattern says. -/
  | ofPattern
  /-- As many as the pattern says, or more if the number has more. -/
  | natural
  /-- So many, whatever the pattern says. -/
  | exactly (n : Nat)
deriving DecidableEq, Repr

/-- Digits in groups in front of a text, the last digit first; a group size of zero takes all that
is left. The fuel is more than the number of digits. -/
def groupFrom (sign : List Char) (others : Nat) : Nat → Nat → List Char → List Char → List Char
  | 0, _, digits, after => digits.reverse ++ after
  | fuel + 1, size, digits, after =>
    let rest := digits.drop size
    if rest.isEmpty then digits.reverse ++ after
    else if size = 0 then sign ++ digits.reverse ++ after
    else groupFrom sign others fuel others rest (sign ++ (digits.take size).reverse ++ after)

/-- Removes single apostrophes around text and takes two together for one: with `none` outside of
apostrophes, and with the text since an apostrophe, reversed, inside. One that is not closed
stays. -/
def unquoteFrom : Option (List Char) → List Char → List Char
  | none, [] => []
  | some seen, [] => '\'' :: seen.reverse
  | none, c :: rest => if c = '\'' then unquoteFrom (some []) rest else c :: unquoteFrom none rest
  | some seen, c :: rest =>
    if c = '\'' then
      (if seen.isEmpty then ['\''] else seen.reverse) ++ unquoteFrom none rest
    else unquoteFrom (some (c :: seen)) rest

/-- A text without the apostrophes that quote parts of it. -/
def unquote (s : List Char) : List Char := unquoteFrom none s

/-- Removes final zeros of a digit text. -/
def dropFinalZeros (digits : List Char) : List Char :=
  (digits.reverse.dropWhile (· == '0')).reverse

namespace Amount

/-- The number of digits after the point; none for what is not a decimal. -/
def fractionDigits : Amount → Nat
  | finite d => d.stripped.fractionDigits
  | _ => 0

/-- The power of ten of the first digit; zero for what is not a decimal. -/
def adjusted : Amount → Int
  | finite d => d.adjusted
  | _ => 0

/-- An amount without its sign and final zeros; what is no number keeps its sign. -/
def magnitude? : Amount → Except NumberFault Amount
  | finite d => d.abs.normalized?.map finite
  | other => other.abs?

/-- The digits before and after the point, or the name in the place of those before it. -/
def plainDigits : Amount → List Char × List Char
  | finite d => d.plainDigits
  | other => (other.text.toList, [])

end Amount

namespace NumberPattern

/-- The digits before the point, with zeros in front up to the least count, in groups. -/
def integerText (signs : NumberSigns) (grouping : Grouping) (least : Nat) (digits : List Char) :
    List Char :=
  let padded := List.replicate (least - digits.length) '0' ++ digits
  groupFrom signs.group.toList grouping.others (padded.length + 1) grouping.last padded.reverse []

/-- The point and the digits after it: zeros at the end are dropped down to the least count. With no
digit required, the digits are read as a number first, and nothing is written if it is zero. -/
def fractionText (signs : NumberSigns) (counts : DigitCounts) (digits : List Char) :
    Except NumberFault (List Char) :=
  if counts.most = 0 then .ok []
  else if counts.least = 0 && digitLimit < digits.length then .error .noResult
  else if counts.least = 0 && digits.all (· == '0') then .ok []
  else
    let padded := digits ++ List.replicate (counts.least - digits.length) '0'
    .ok (signs.point.toList ++ padded.take counts.least ++
      dropFinalZeros (padded.drop counts.least))

/-- An amount rounded at a power of ten; there is nothing to round in what is no number. -/
def roundedAt? (exponent : Int) : Amount → Except NumberFault Amount
  | .finite d => (d.quantized? exponent).map .finite
  | .infinite _ => .error .noResult
  | other => .ok other

/-- An amount without a sign, rounded to the greatest count of digits after the point. -/
def positional (signs : NumberSigns) (p : NumberPattern) (fraction : DigitCounts) (a : Amount) :
    Except NumberFault (List Char) :=
  match a with
  | .infinite _ => .ok signs.infinity.toList
  | _ => do
    let lastPlace := max Decimal.leastExponent (-(fraction.most : Int))
    let (whole, rest) := (← roundedAt? lastPlace a).plainDigits
    let after ← fractionText signs fraction rest
    pure (integerText signs p.grouping p.integer.least whole ++ after)

/-- An amount without a sign, with the counts before the point as significant digits. -/
def significantText (signs : NumberSigns) (p : NumberPattern) (a : Amount) :
    Except NumberFault (List Char) := do
  let power := a.adjusted
  -- scaling moves the last significant digit to the units, where rounding cuts
  let scale := (p.integer.most : Int) - 1 - power
  let digits := (← roundedAt? 0 (← a.scaled? scale)).plainDigits.1
  if scale ≤ 0 then
    pure (integerText signs p.grouping 0 (digits ++ List.replicate (-scale).toNat '0'))
  else
    let whole := digits.take (digits.length - scale.toNat)
    let rest := digits.drop whole.length
    let needed := p.integer.least - whole.length
    -- below one, zeros stand between the point and the first significant digit
    let fraction := List.replicate (-(min (power + 1) 0)).toNat '0' ++ rest.take needed ++
      dropFinalZeros (rest.drop needed)
    let shown := integerText signs p.grouping 0 (if whole.isEmpty then ['0'] else whole)
    pure (shown ++ (if fraction.isEmpty then [] else signs.point.toList ++ fraction))

/-- An amount without a sign as one with the pattern's count of digits before the point, and the
power of ten that it is multiplied by. -/
def mantissa? (p : NumberPattern) (a : Amount) : Except NumberFault (Amount × Int) := do
  let lead : Int := max 1 (min p.integer.least p.integer.most) - 1
  -- the power of ten to multiply with is itself a number that has to be in range
  if Decimal.greatestPower < -a.adjusted then .error .tooGreat
  else
    let unit ← a.scaled? (-a.adjusted)
    pure (← unit.scaled? lead, a.adjusted - lead)

/-- An exponent with its sign. -/
def exponentText (signs : NumberSigns) (p : NumberPattern) (e : ExponentPart) (power : Int) :
    List Char :=
  signs.exponent.toList ++
    (if power < 0 then ['-'] else if e.showsPlus then ['+'] else []) ++
    integerText signs p.grouping e.digits.least (decimalDigits power.natAbs)

/-- The counts of digits after the point that an amount is written with. A pattern in scientific
notation without a fraction part shows all the digits there are. -/
def fractionCounts (p : NumberPattern) (places : Places) (a : Amount) : DigitCounts :=
  match places with
  | .exactly n => if p.exponent.isSome && n == 0 then ⟨n, a.fractionDigits⟩ else ⟨n, n⟩
  | .natural => ⟨p.fraction.least, max p.fraction.most a.fractionDigits⟩
  | .ofPattern =>
    if p.exponent.isSome && p.fraction.most == 0 then ⟨p.fraction.least, a.fractionDigits⟩
    else p.fraction

/-- What a pattern writes of an amount: the sign, the amount without it, and in scientific notation
the power of ten. -/
structure Parts where
  negative : Bool
  shown : Amount
  power : Int

/-- The parts of an amount that a pattern writes; a zero keeps its sign, and zeros at the end do not
count as digits of the number. -/
def parts? (p : NumberPattern) (a : Amount) : Except NumberFault Parts := do
  let scaled ← a.scaled? p.scale
  let value ← scaled.magnitude?
  if p.exponent.isSome then
    let (m, power) ← p.mantissa? value
    pure ⟨scaled.isNegative, m, power⟩
  else pure ⟨scaled.isNegative, value, 0⟩

/-- The text of an amount without its sign. -/
def numberText (signs : NumberSigns) (p : NumberPattern) (places : Places) (parts : Parts) :
    Except NumberFault (List Char) :=
  let fraction := p.fractionCounts places parts.shown
  match p.exponent with
  | some e =>
    (p.positional signs fraction parts.shown).map (· ++ p.exponentText signs e parts.power)
  | none =>
    if p.significant then p.significantText signs parts.shown
    else p.positional signs fraction parts.shown

/-- A number's text between the texts that stand around it. -/
def surround (p : NumberPattern) (negative : Bool) (number : List Char) : List Char :=
  let affixes := if negative then p.negative else p.positive
  affixes.before ++ (if p.showsNumber then number else []) ++ affixes.after

/-- The parts of an amount by a pattern, with currency signs and apostrophes still in place. -/
def renderParts (signs : NumberSigns) (p : NumberPattern) (places : Places) (parts : Parts) :
    Except NumberFault (List Char) :=
  (p.numberText signs places parts).map (p.surround parts.negative)

/-- An amount by a pattern, with currency signs and apostrophes still in place. -/
def render (signs : NumberSigns) (p : NumberPattern) (places : Places) (a : Amount) :
    Except NumberFault (List Char) := do
  p.renderParts signs places (← p.parts? a)

end NumberPattern

end Parlance.Number
