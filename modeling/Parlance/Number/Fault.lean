/-!
# Faults of number formatting

The causes for which a quantity cannot be computed with or written out. After most of them the plain
text of the quantity still serves (`NumberFault.isRecoverable`).
-/

namespace Parlance.Number

/-- Why a quantity cannot be computed with. -/
inductive NumberFault where
  /-- A text stands where a number is needed, or one that is no numeral. -/
  | notNumeric
  /-- The result has more digits than decimal arithmetic keeps, or there is none. -/
  | noResult
  /-- The result is greater than every number of decimal arithmetic. -/
  | tooGreat
  /-- A whole number was asked of an infinite one, or one that no memory holds. -/
  | unbounded
  /-- A text is longer than memory holds. -/
  | oversized
  /-- A whole number was asked of what is not a number, by the name of its kind. -/
  | undefined (kind : String)
  /-- There is no number format of the name. -/
  | unknownFormat (name : String)
  /-- The language has no shortened forms of the length asked for. -/
  | noCompactForms
  /-- An option of a number format has a value of the wrong kind. -/
  | badOption (name : String)
  /-- The language has no pattern of the kind asked for. -/
  | noPattern
  /-- A number pattern that asks for significant digits and for places at once. -/
  | badPattern (pattern : String)
deriving DecidableEq, Repr

namespace NumberFault

/-- Whether the text of the quantity may stand for the result. -/
def isRecoverable : NumberFault → Bool
  | tooGreat => false
  | unbounded => false
  | oversized => false
  | _ => true

/-- The wording of a fault. -/
def message : NumberFault → String
  | notNumeric => "not a number"
  | noResult => "no result within the precision"
  | tooGreat => "number out of range"
  | unbounded => "number without bound"
  | oversized => "text beyond memory"
  | undefined kind => s!"cannot convert {kind} to integer"
  | unknownFormat name => s!"Unknown number format '{name}'"
  | noCompactForms => "no compact forms of this length"
  | noPattern => "no pattern of this kind"
  | badOption name => s!"option '{name}' has the wrong type"
  | badPattern pattern => s!"Invalid number pattern '{pattern}'"

end NumberFault

end Parlance.Number
