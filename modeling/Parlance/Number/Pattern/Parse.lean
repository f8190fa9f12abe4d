import Parlance.Number.Fault

/-!
# Number patterns

A number pattern such as `#,##0.00 ¤;(#,##0.00 ¤)` is a text before the number, the digits, and a
text after it; a second pattern behind a semicolon says what stands around a negative number. Text
between apostrophes is literal. `NumberPattern.parse` reads a pattern and
`NumberPattern.render` (in `Number.Pattern.Render`) writes a number by it.
-/

namespace Parlance.Number

/-- What stands before and after a number. -/
structure Affixes where
  before : List Char
  after : List Char
deriving DecidableEq, Repr

/-- The least and the greatest number of digits of a part. -/
structure DigitCounts where
  least : Nat
  most : Nat
deriving DecidableEq, Repr

/-- The sizes of the digit groups before the point: of the last, and of those before it. -/
structure Grouping where
  last : Nat
  others : Nat
deriving DecidableEq, Repr

/-- The exponent of a pattern in scientific notation. -/
structure ExponentPart where
  digits : DigitCounts
  /-- Whether an exponent that is not negative has a plus sign. -/
  showsPlus : Bool
deriving DecidableEq, Repr

/-- A number pattern. -/
structure NumberPattern where
  positive : Affixes
  negative : Affixes
  grouping : Grouping
  integer : DigitCounts
  fraction : DigitCounts
  exponent : Option ExponentPart
  /-- Whether the counts before the point are those of significant digits, which an `@` anywhere in
  the pattern says. -/
  significant : Bool
  /-- Whether there is a number in the pattern at all. -/
  showsNumber : Bool
deriving DecidableEq, Repr

namespace NumberPattern

/-- The characters that begin the number of a pattern. -/
def startsNumber (c : Char) : Bool :=
  c.isDigit || c == '@' || c == '#' || c == '.' || c == ','

/-- The characters of the number of a pattern. -/
def inNumber (c : Char) : Bool := startsNumber c || c == 'E' || c == '+'

/-- The length of the text before the number: it ends where the number begins, and at an apostrophe
that no other follows. -/
def beforeLength (quoted : Bool) : List Char → Nat
  | [] => 0
  | c :: rest =>
    if quoted then 1 + beforeLength (c != '\'') rest
    else if c = '\'' then
      if rest.contains '\'' then 1 + beforeLength true rest else 0
    else if startsNumber c then 0
    else 1 + beforeLength false rest

/-- A pattern as the text before the number, the number, and the rest of the line. -/
def split (s : List Char) : Affixes × List Char :=
  let before := s.take (beforeLength false s)
  let rest := s.drop before.length
  let number := rest.takeWhile inNumber
  (⟨before, (rest.drop number.length).takeWhile (· != '\n')⟩, number)

/-- A text up to a character and after it, if it holds the character. -/
def cut? (c : Char) (s : List Char) : Option (List Char × List Char) :=
  let before := s.takeWhile (· != c)
  match s.drop before.length with
  | [] => none
  | _ :: after => some (before, after)

/-- A text up to the last occurrence of a character and after it, if it holds the character. -/
def cutLast? (c : Char) (s : List Char) : Option (List Char × List Char) :=
  (cut? c s.reverse).map fun p => (p.2.reverse, p.1.reverse)

/-- A digit that is always shown. -/
def isRequired (c : Char) : Bool := c == '@' || c == '0'

/-- The digit counts of a part of the number, up to the first character that is no placeholder. -/
def digitCounts (part : List Char) : DigitCounts :=
  let run := part.takeWhile fun c => isRequired c || c == '#' || c == ','
  ⟨run.countP isRequired, run.countP (· != ',')⟩

/-- The size of the groups of a pattern without commas. -/
def widestGroup : Nat := 1000

/-- The group sizes that the commas of an integer part set. -/
def groupingOf (integer : List Char) : Grouping :=
  match cutLast? ',' integer with
  | none => ⟨widestGroup, widestGroup⟩
  | some (rest, last) =>
    match cutLast? ',' rest with
    | some (_, others) => ⟨last.length, others.length⟩
    | none => ⟨last.length, last.length⟩

/-- The exponent part that stands behind the `E`, if anything does. -/
def exponentPart (s : List Char) : Option ExponentPart :=
  if s.isEmpty then none
  else some ⟨digitCounts (s.dropWhile (· == '+')), s.head? == some '+'⟩

/-- Reads the characters of a pattern. -/
def parseChars (s : List Char) : Except NumberFault NumberPattern :=
  let (positivePart, negativePart?) :=
    match cut? ';' s with
    | some (positive, negative) => (positive, some negative)
    | none => (s, none)
  let (positive, number) := split positivePart
  -- without a pattern for negative numbers they have a minus sign before the prefix
  let negative := match negativePart? with
    | some part => (split part).1
    | none => ⟨'-' :: positive.before, positive.after⟩
  let (mantissa, exponent) := match cut? 'E' number with
    | some (mantissa, exponent) => (mantissa, exponentPart exponent)
    | none => (number, none)
  if mantissa.contains '@' && mantissa.contains '.' && mantissa.contains '0' then
    .error (.badPattern (String.ofList s))
  else
    let (integer, fraction) := (cutLast? '.' mantissa).getD (mantissa, [])
    .ok {
      positive := positive
      negative := negative
      grouping := groupingOf integer
      integer := digitCounts integer
      fraction := digitCounts fraction
      exponent := exponent
      significant := s.contains '@'
      showsNumber := !mantissa.isEmpty }

/-- Reads a pattern. -/
def parse (pattern : String) : Except NumberFault NumberPattern := parseChars pattern.toList

/-- The power of ten by which numbers are multiplied: 2 for a percent sign around the number, 3 for
a per-mille sign. -/
def scale (p : NumberPattern) : Nat :=
  let around := p.positive.before ++ p.negative.before ++ p.positive.after ++ p.negative.after
  if around.contains '%' then 2
  else if around.contains '‰' then 3
  else 0

end NumberPattern

end Parlance.Number
