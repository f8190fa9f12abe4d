import Parlance.Number.Digits

/-!
# What can be wrong with a JSON text

A fault has a cause and a place. The place is kept as the number of characters left from there to
the end, which a reader that only sees the rest of its text knows without counting; `Place.of` turns
it into an offset, a line and a column.
-/

namespace Parlance.Json

/-- Why a text is not a JSON value. -/
inductive Cause where
  | expectingValue
  | expectingName
  | expectingColon
  | expectingComma
  | extraData
  | unterminatedString
  | controlCharacter
  | unknownEscape
  | malformedCodeEscape
  /-- Half of a surrogate pair without the other half, which is no character. -/
  | loneSurrogate
  | byteOrderMark
  /-- An integer with more digits than are read. -/
  | oversizedNumber (digits : Nat)
  /-- Lists and objects that are nested in each other too deeply. -/
  | tooDeep
deriving DecidableEq, Repr

/-- A cause, and how many characters are left from its place on. -/
structure Fault where
  cause : Cause
  left : Nat
deriving Repr

/-- A place in a text: the offset from zero, the line and the column from one. -/
structure Place where
  index : Nat
  line : Nat
  column : Nat
deriving DecidableEq, Repr

/-- The place of an offset. -/
def Place.of (text : List Char) (index : Nat) : Place :=
  let before := text.take index
  ⟨index, before.count '\n' + 1, (before.reverse.takeWhile (· != '\n')).length + 1⟩

/-- The wording of a cause. -/
def Cause.message : Cause → String
  | expectingValue => "Expecting value"
  | expectingName => "Expecting property name enclosed in double quotes"
  | expectingColon => "Expecting ':' delimiter"
  | expectingComma => "Expecting ',' delimiter"
  | extraData => "Extra data"
  | unterminatedString => "Unterminated string starting at"
  | controlCharacter => "Invalid control character at"
  | unknownEscape => "Invalid \\escape"
  | malformedCodeEscape => "Invalid \\uXXXX escape"
  | loneSurrogate => "Unpaired surrogate"
  | byteOrderMark => "Unexpected UTF-8 BOM (decode using utf-8-sig)"
  | oversizedNumber digits => s!"integer of {digits} digits"
  | tooDeep => "nested too deeply"

/-- The wording of a cause with its place. -/
def describe (cause : Cause) (place : Place) : String :=
  s!"{cause.message}: line {place.line} column {place.column} (char {place.index})"

end Parlance.Json
