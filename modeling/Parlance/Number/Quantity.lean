import Parlance.Number.Amount
import Parlance.Number.Double

/-!
# Quantities

What a message is given as a number: an integer, a floating-point number, a decimal amount, or a
text that stands in the place of one. `Quantity.amount?` is the number to be written out. A
floating-point number is taken by the text that it is written with, and not by its binary value.
-/

namespace Parlance.Number

/-- A number as a message is given it. -/
inductive Quantity where
  | integer (i : Int)
  | double (x : Double)
  | decimal (a : Amount)
  | written (s : String)
deriving DecidableEq, Repr, Inhabited

namespace Double

/-- Whether the value equals an integer; both zeros equal 0. -/
def eqInt : Double → Int → Bool
  | .finite negative mantissa exponent, i =>
    let x := finite negative mantissa exponent
    x.isWhole && (if negative then -(x.floorAbs : Int) else (x.floorAbs : Int)) == i
  | _, _ => false

/-- The amount that a floating-point number writes. -/
def amount : Double → Amount
  | .finite negative mantissa exponent => .finite (writtenDecimal negative mantissa exponent)
  | .infinite negative => .infinite negative
  | .notANumber => .notANumber false false 0

end Double

namespace Quantity

/-- The text of a quantity. -/
def text : Quantity → String
  | integer i => intText i
  | double x => x.text
  | decimal a => a.text
  | written s => s

/-- Whether a quantity equals an integer; a text equals none. -/
def eqInt : Quantity → Int → Bool
  | integer j, i => j == i
  | double x, i => x.eqInt i
  | decimal a, i => a.eqInt i
  | written _, _ => false

/-- Whether a quantity can be looked up among integers; what is signaling cannot. -/
def isComparable : Quantity → Bool
  | decimal (.notANumber _ signaling _) => !signaling
  | _ => true

/-- The number that a quantity writes; a text is read as a numeral. -/
def amount? : Quantity → Except NumberFault Amount
  | integer i => .ok (.finite (.ofInt i))
  | double x => .ok x.amount
  | decimal a => .ok a
  | written s =>
    match Amount.ofText? s with
    | some a => .ok a
    | none => .error .notNumeric

end Quantity

end Parlance.Number
