import Parlance.Plural.Category

/-!
# Plural rules

A rule gives a category the counts that meet one of its alternatives, each of which is a list of
relations that must all hold. A relation says that an operand, or its remainder by a modulus, is or
is not among some numbers; a count that is not whole is among none. Counts without a rule are
`other`. Relations are looked at one by one, only as far as needed, since the remainder of a great
decimal is a fault.
-/

namespace Parlance

open Parlance.Number

/-- What a relation looks at. -/
inductive PluralOperand where
  | whole
  | integer
  | places
  | fraction
  | trimmed
deriving DecidableEq, Repr

namespace PluralOperand

/-- The value of an operand, if it is a whole number. -/
def value? (o : PluralOperands) : PluralOperand → Option Nat
  | whole => o.whole
  | integer => some o.integer
  | places => some o.places
  | fraction => some o.fraction
  | trimmed => some o.trimmed

end PluralOperand

/-- A range of numbers, both ends included. -/
structure NumberRange where
  first : Nat
  last : Nat
deriving DecidableEq, Repr

namespace NumberRange

/-- Whether a number is in a range. -/
def contains (r : NumberRange) (n : Nat) : Bool := r.first ≤ n && n ≤ r.last

instance (n : Nat) : OfNat NumberRange n := ⟨⟨n, n⟩⟩

end NumberRange

/-- The range from one number to another. -/
def upTo (first last : Nat) : NumberRange := ⟨first, last⟩

/-- An operand or its remainder, compared with some numbers. -/
structure PluralRelation where
  operand : PluralOperand
  modulus : Option Nat
  /-- Whether the value has to be among the numbers, or must not be. -/
  among : Bool
  numbers : List NumberRange
deriving DecidableEq, Repr

namespace PluralRelation

/-- The remainder of an operand; that of a decimal needs a quotient with no more digits than the
precision. -/
def remainder? (r : PluralRelation) (o : PluralOperands) (n k : Nat) : Except NumberFault Nat :=
  if r.operand = .whole && o.isDecimal && tenTo Decimal.precision ≤ n / k then .error .noResult
  else .ok (n % k)

/-- Whether a relation holds of a count. -/
def holds? (r : PluralRelation) (o : PluralOperands) : Except NumberFault Bool :=
  match r.operand.value? o, r.modulus with
  | none, _ => .ok (!r.among)
  | some n, none => .ok (r.numbers.any (·.contains n) == r.among)
  | some n, some k => (r.remainder? o n k).map fun m => r.numbers.any (·.contains m) == r.among

end PluralRelation

namespace PluralOperand

/-- The operand is among some numbers. -/
def is (operand : PluralOperand) (numbers : List NumberRange) : PluralRelation :=
  ⟨operand, none, true, numbers⟩

/-- The operand is not among some numbers. -/
def isNot (operand : PluralOperand) (numbers : List NumberRange) : PluralRelation :=
  ⟨operand, none, false, numbers⟩

/-- The remainder by a modulus is among some numbers. -/
def ends (operand : PluralOperand) (modulus : Nat) (numbers : List NumberRange) : PluralRelation :=
  ⟨operand, some modulus, true, numbers⟩

/-- The remainder by a modulus is not among some numbers. -/
def endsNot (operand : PluralOperand) (modulus : Nat) (numbers : List NumberRange) :
    PluralRelation :=
  ⟨operand, some modulus, false, numbers⟩

end PluralOperand

/-- The counts of a category. -/
structure PluralRule where
  category : PluralCategory
  alternatives : List (List PluralRelation)
deriving DecidableEq, Repr

namespace PluralRule

/-- Whether a count meets a rule. -/
def holds? (r : PluralRule) (o : PluralOperands) : Except NumberFault Bool :=
  r.alternatives.anyM fun relations => relations.allM (·.holds? o)

/-- The category that the first rule met gives a count. -/
def choose (o : PluralOperands) : List PluralRule → Except NumberFault PluralCategory
  | [] => .ok .other
  | r :: rest => do if ← r.holds? o then pure r.category else choose o rest

end PluralRule

end Parlance
