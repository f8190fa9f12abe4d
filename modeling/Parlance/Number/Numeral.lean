import Parlance.Number.Double
import Parlance.Text.Blank
import Parlance.Text.Digit

/-!
# Numerals as they are typed

Numbers as a person writes them into a text: white space may stand around a numeral, a sign before
it, and its digits may be of any script. `readInt` reads whole numbers in a base, after the mark of
the base perhaps, and `Double.ofTyped?` numbers with a point or an exponent and the words for what
is not finite.
-/

namespace Parlance.Number

open Parlance.Text

/-- White space that may stand around a numeral: all but the separators of ASCII. -/
def isMargin (c : Char) : Bool := isBlank c && !(0x1C ≤ c.toNat && c.toNat ≤ 0x1F)

/-- A numeral without the white space around it and in the digits of ASCII. -/
def bareNumeral (s : List Char) : List Char :=
  withAsciiDigits ((s.dropWhile isMargin).reverse.dropWhile isMargin).reverse

/-! ## Whole numbers -/

/-- Why a text is no whole number. -/
inductive IntFault where
  /-- It is none in its base. -/
  | malformed
  /-- It has more decimal digits than are read. -/
  | tooLong (digits : Nat)
deriving DecidableEq, Repr

/-- The letter that marks a base after a zero. -/
def baseMark? : Nat → Option Char
  | 2 => some 'b'
  | 8 => some 'o'
  | 16 => some 'x'
  | _ => none

/-- The digits of a numeral, without the mark of its base. -/
def dropBaseMark (base : Nat) (s : List Char) : List Char :=
  match s with
  | '0' :: c :: digits => if baseMark? base == some c.toLower then digits else s
  | _ => s

/-- Reads a whole number. Only in base ten is the number of digits limited, and a numeral that goes
wrong after too many of them counts as too long. -/
def readInt (base : Nat) (s : List Char) : Except IntFault Int :=
  let (negative, unsigned) := Decimal.takeSign (bareNumeral s)
  let digits := dropBaseMark base unsigned
  let count := (digits.takeWhile fun c => (digitValue? base c).isSome).length
  if base == 10 && digitLimit < count then .error (.tooLong count)
  else
    match ofBaseDigits? base digits with
    | some n => .ok (if negative then -(n : Int) else n)
    | none => .error .malformed

/-! ## Floating-point numbers -/

/-- The number that a word stands for. -/
def Double.ofWord? (word : List Char) : Option Double :=
  match String.ofList (word.map Char.toLower) with
  | "inf" => some (.infinite false)
  | "infinity" => some (.infinite false)
  | "nan" => some .notANumber
  | _ => none

/-- Reads a floating-point number: a word, or a decimal numeral as the nearest number. -/
def Double.ofTyped? (s : List Char) : Option Double :=
  let numeral := bareNumeral s
  let (negative, unsigned) := Decimal.takeSign numeral
  match Double.ofWord? unsigned with
  | some x => some (if negative then x.negate else x)
  | none => Double.ofChars? numeral

end Parlance.Number
