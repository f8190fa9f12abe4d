import Parlance.Decode
import Parlance.Number.Numeral
import Parlance.Text.Base64
import Parlance.Text.Case
import Parlance.Value.Display
import Parlance.Yaml.Fault
import Parlance.Yaml.Schema

/-!
# What scalars denote

The value of a scalar with a tag. The tag may have been given to a text that is not written the way
the tag says; such a scalar denotes nothing. `Meaning` is a value, or a fault with how deep it lies:
a document's values are made level by level, so of two faults the one nearer to the root is met.
-/

namespace Parlance.Yaml

open Parlance.Number Parlance.Text

/-! ## Meanings -/

/-- What a part of a document denotes. A fault has the level that it lies at: zero in the part
itself, and one more for each collection between the part and the place of the fault. -/
abbrev Meaning (α : Type) := Except (Nat × DecodeFault) α

namespace Meaning

/-- A fault of the part itself. -/
def fault {α : Type} (f : DecodeFault) : Meaning α := .error (0, f)

/-- Two meanings together. Of two faults the one at the lesser level counts, and of two at one level
the first. -/
def both {α β : Type} (a : Meaning α) (b : Meaning β) : Meaning (α × β) :=
  match a, b with
  | .ok x, .ok y => .ok (x, y)
  | .error f, .ok _ => .error f
  | .ok _, .error g => .error g
  | .error f, .error g => .error (if g.1 < f.1 then g else f)

/-- Several meanings together. -/
def all {α : Type} (meanings : List (Meaning α)) : Meaning (List α) :=
  meanings.foldr (fun m rest => (m.both rest).map fun (x, xs) => x :: xs) (.ok [])

/-- The meaning as part of a collection. -/
def below {α : Type} (m : Meaning α) : Meaning α := m.mapError fun (level, f) => (level + 1, f)

end Meaning

/-- What stops the reading of a text with a fault: most faults say that it is not YAML. -/
def Fault.decodeFault (f : Fault) : DecodeFault :=
  match f with
  | .tooDeep => .noSuchValue .tooDeep
  | .oversizedCode code =>
    if code < 0x80000000 then .noSuchValue (.badValue "chr() arg not in range(0x110000)")
    else .noSuchValue .overflow
  | f => .malformed f.describe

/-- A scalar that denotes nothing. -/
def noValue {α : Type} (f : Failure) : Except DecodeFault α := .error (.noSuchValue f)

/-! ## Numbers -/

/-- A text without the bars that separate digits. -/
def dropBars (s : List Char) : List Char := s.filter (· != '_')

/-- The whole number of a numeral in a base. -/
def intOfNumeral (base : Nat) (numeral : List Char) : Except DecodeFault Int :=
  match readInt base numeral with
  | .ok n => .ok n
  | .error (.tooLong digits) => noValue (.oversizedNumber digits)
  | .error .malformed =>
    let shown := String.ofList ((Value.quoted (String.ofList numeral)).toList.take 200)
    noValue (.badValue (s!"invalid literal for int() with base {base}: " ++ shown))

/-- The number of the groups of sixty between colons. -/
def sexagesimal (groups : List (List Char)) : Except DecodeFault Int :=
  (groups.mapM (intOfNumeral 10)).map fun numbers => numbers.foldl (fun n d => n * 60 + d) 0

/-- The integer of a scalar. -/
def intOf (text : String) : Except DecodeFault Value :=
  let (negative, numeral) := Decimal.takeSign (dropBars text.toList)
  let unsigned : Except DecodeFault Int :=
    match numeral with
    | [] => noValue .emptyList
    | ['0'] => .ok 0
    | '0' :: 'b' :: digits => intOfNumeral 2 digits
    | '0' :: 'x' :: digits => intOfNumeral 16 digits
    -- a zero at the beginning means octal digits
    | '0' :: _ => intOfNumeral 8 numeral
    | _ =>
      if numeral.contains ':' then sexagesimal (pieces ':' numeral) else intOfNumeral 10 numeral
  unsigned.map fun n => .int (if negative then -n else n)

/-- The floating-point number of a numeral. -/
def floatOfNumeral (numeral : List Char) : Except DecodeFault Double :=
  match Double.ofTyped? numeral with
  | some x => .ok x
  | none =>
    noValue (.badValue ("could not convert string to float: " ++
      Value.quoted (String.ofList numeral)))

/-- The sum of groups of sixty and a number, the last group first, whose weight is given; a weight
beyond all floating-point numbers is refused. -/
def sumGroups (weight : Nat) : List Double → Double → Except DecodeFault Double
  | [], sum => .ok sum
  | x :: rest, sum =>
    match Double.ofRatio false weight 1 with
    | .infinite _ => noValue .overflow
    | factor => sumGroups (weight * 60) rest (sum.add (x.mul factor))

/-- The floating-point number of a scalar. -/
def floatOf (text : String) : Except DecodeFault Value :=
  let written := lowerChars (dropBars text.toList)
  if written.isEmpty then noValue .emptyList
  else
    let (negative, numeral) := Decimal.takeSign written
    let unsigned : Except DecodeFault Double :=
      match numeral with
      | ['.', 'i', 'n', 'f'] => .ok (.infinite false)
      | ['.', 'n', 'a', 'n'] => .ok .notANumber
      | _ =>
        -- colons part groups to the base of sixty
        if numeral.contains ':' then
          ((pieces ':' numeral).mapM floatOfNumeral).bind fun groups =>
            sumGroups 1 groups.reverse (.ofRatio false 0 1)
        else floatOfNumeral numeral
    unsigned.map fun x => .float (if negative then x.negate else x)

/-! ## Other scalars -/

/-- The truth value of a scalar. -/
def boolOf (text : String) : Except DecodeFault Value :=
  let word := String.ofList (text.toList.map Char.toLower)
  if ["yes", "true", "on"].contains word then .ok (.bool true)
  else if ["no", "false", "off"].contains word then .ok (.bool false)
  else noValue .missingKey

/-- The bytes of a scalar. -/
def binaryOf (text : String) : Except DecodeFault Value :=
  let s := text.toList
  if !s.all fun c => c.toNat < 0x80 then .error Fault.malformedBinary.decodeFault
  else
    match Base64.decode s with
    | some bytes => .ok (.bytes bytes)
    | none => .error Fault.malformedBinary.decodeFault

/-- A number of seconds, negated perhaps, as days and seconds of a day. -/
def durationText (negative : Bool) (seconds : Nat) : String :=
  let total : Int := if negative then -(seconds : Int) else seconds
  let days := Int.fdiv total 86400
  let rest := Int.fmod total 86400
  "datetime.timedelta(" ++ s!"days={days}" ++
    (if rest == 0 then "" else s!", seconds={rest}") ++ ")"

/-- The offset of a zone as it is written after a time. -/
def zoneText : Option (Bool × Nat × Nat) → String
  | none => ""
  | some (negative, hours, minutes) =>
    let minutes := hours * 60 + minutes
    String.ofList ((if negative && minutes != 0 then '-' else '+') ::
      paddedDecimal 2 (minutes / 60) ++ ':' :: paddedDecimal 2 (minutes % 60))

/-- Refuses a zone that is a day or more away. -/
def checkZone : Option (Bool × Nat × Nat) → Except DecodeFault Unit
  | none => .ok ()
  | some (negative, hours, minutes) =>
    let seconds := hours * 3600 + minutes * 60
    if seconds < 86400 then .ok ()
    else
      noValue (.badValue ("offset must be a timedelta strictly between -timedelta(hours=24) and " ++
        s!"timedelta(hours=24), not {durationText negative seconds}."))

/-- The date of a scalar. -/
def timestampOf (text : String) : Except DecodeFault Value :=
  match Timestamp.ofChars? (dropLineFeed text.toList) with
  | none => noValue .notTable
  | some t =>
    (checkZone t.zone).bind fun _ =>
    match t.date.fault?, t.clock.bind Clock.fault? with
    | some f, _ => noValue (.badValue f.message)
    | none, some f => noValue (.badValue f.message)
    | none, none =>
      match t.clock with
      | none => .ok (.moment .date t.date.text)
      | some c => .ok (.moment .dateTime (t.date.text ++ " " ++ c.text ++ zoneText t.zone))

/-- The meaning of a node of a sort that its tag does not fit. A collection is made before it is
filled, and only then found to be another sort of node. -/
def Tag.misfitMeaning {α : Type} (tag : Tag) (sort : String) (place : Option Place) : Meaning α :=
  match tag with
  | .mapping => (Meaning.fault (Fault.notMapping sort place).decodeFault).below
  | .set => (Meaning.fault (Fault.notMapping sort place).decodeFault).below
  | .sequence => (Meaning.fault Fault.misfit.decodeFault).below
  | .pairs => (Meaning.fault Fault.misfit.decodeFault).below
  | _ => .fault Fault.unknownTag.decodeFault

/-- The value that a text denotes as a scalar with a tag at a place. -/
def textMeaning (tag : Tag) (text : String) (place : Option Place) : Meaning Value :=
  let value (r : Except DecodeFault Value) : Meaning Value := r.mapError fun f => (0, f)
  match tag with
  | .null => .ok .null
  | .bool => value (boolOf text)
  | .int => value (intOf text)
  | .float => value (floatOf text)
  | .text => .ok (.text text)
  | .binary => value (binaryOf text)
  | .timestamp => value (timestampOf text)
  | other => other.misfitMeaning "scalar" place

end Parlance.Yaml
