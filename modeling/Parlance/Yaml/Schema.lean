import Parlance.Calendar
import Parlance.Number.Double
import Parlance.Text.Pieces

/-!
# Tags of YAML scalars

What a plain scalar denotes follows from how it is written: words for truth values and for nothing,
integers in several bases and in groups of sixty, floating-point numbers, and dates. Everything else
is text.
-/

namespace Parlance.Yaml

open Parlance.Number Parlance.Text

/-- What a node denotes. -/
inductive Tag where
  | null
  | bool
  | int
  | float
  | text
  | binary
  | timestamp
  | merge
  | value
  | sequence
  | mapping
  | set
  | pairs
  | other (name : String)
deriving DecidableEq, Repr, Inhabited

/-- What the names of the standard tags start with. -/
def standardTagStem : String := "tag:yaml.org,2002:"

namespace Tag

/-- The tags with a name of their own. -/
def named : List (String × Tag) :=
  [("null", null), ("bool", bool), ("int", int), ("float", float), ("str", text),
   ("binary", binary), ("timestamp", timestamp), ("merge", merge), ("value", value),
   ("seq", sequence), ("map", mapping), ("set", set), ("pairs", pairs), ("omap", pairs)]

/-- The tag of a full name. -/
def ofName (name : String) : Tag :=
  match named.find? fun t => standardTagStem ++ t.1 == name with
  | some t => t.2
  | none => other name

end Tag

/-! ## How numbers and dates are written -/

/-- Whether a character is a digit or a separator of digits. -/
def isDigitOrBar (c : Char) : Bool := c.isDigit || c == '_'

/-- A text without a sign in front. -/
def dropSign : List Char → List Char
  | '-' :: rest => rest
  | '+' :: rest => rest
  | s => s

/-- Whether a text is a digit with digits and separators after it. -/
def isDigits : List Char → Bool
  | c :: rest => c.isDigit && rest.all isDigitOrBar
  | [] => false

/-- Whether a text is a number from 0 to 59 in one or two digits. -/
def isSixtieth : List Char → Bool
  | [a] => a.isDigit
  | [a, b] => '0' ≤ a && a ≤ '5' && b.isDigit
  | _ => false

/-- Whether a text is an integer: binary after `0b`, hexadecimal after `0x`, octal after `0`,
decimal otherwise, or in groups of sixty with colons. -/
def isInt (s : List Char) : Bool :=
  match dropSign s with
  | '0' :: 'b' :: digits => !digits.isEmpty && digits.all fun c => c == '0' || c == '1' || c == '_'
  | '0' :: 'x' :: digits =>
    !digits.isEmpty && digits.all fun c => (digitValue? 16 c).isSome || c == '_'
  | '0' :: digits => digits.all fun c => ('0' ≤ c && c ≤ '7') || c == '_'
  | s =>
    match pieces ':' s with
    | first :: rest => isDigits first && first.head? != some '0' && rest.all isSixtieth
    | [] => false

/-- Whether a text is empty or an exponent with its sign. -/
def isExponent : List Char → Bool
  | [] => true
  | e :: sign :: digits =>
    (e == 'e' || e == 'E') && (sign == '-' || sign == '+') && !digits.isEmpty &&
      digits.all Char.isDigit
  | _ => false

/-- Whether a text is a fraction after its point, with an exponent perhaps. -/
def isFraction (s : List Char) : Bool := isExponent (s.dropWhile isDigitOrBar)

/-- Whether a text is a floating-point number: with a point, and with a sign in its exponent; or in
groups of sixty with a point; or one of the words for what is not finite. -/
def isFloat (s : List Char) : Bool :=
  let unsigned := dropSign s
  let whole := unsigned.takeWhile (· != '.')
  match unsigned.drop whole.length with
  | '.' :: fraction =>
    -- without digits before the point, a special value or a fraction
    if whole.isEmpty then
      ["inf", "Inf", "INF"].contains (String.ofList fraction) ||
        (unsigned.length == s.length &&
          (["nan", "NaN", "NAN"].contains (String.ofList fraction) ||
            ((fraction.head?.map Char.isDigit).getD false && isFraction fraction)))
    else
      (isDigits whole && isFraction fraction) ||
        match pieces ':' whole with
        | first :: part :: parts =>
          isDigits first && (part :: parts).all isSixtieth && fraction.all isDigitOrBar
        | _ => false
  | _ => false

/-- The digits a text starts with, between `least` and `most` of them, and what follows. -/
def takeDigits? (least most : Nat) (s : List Char) : Option (Nat × List Char) :=
  let digits := (s.take most).takeWhile Char.isDigit
  if digits.length < least then none
  else (ofDigits? digits).map fun n => (n, s.drop digits.length)

/-- A date and time as it is written: the zone is the sign, hours and minutes of an offset, or that
there is none. -/
structure Timestamp where
  date : Date
  clock : Option Clock
  zone : Option (Bool × Nat × Nat)
deriving Repr

/-- A fraction of a second in microseconds, further digits cut off. -/
def microseconds (digits : List Char) : Nat :=
  let six := digits.take 6
  ((ofDigits? six).getD 0) * tenTo (6 - six.length)

/-- The zone at the end of a time. -/
def takeZone? (s : List Char) : Option (Option (Bool × Nat × Nat)) :=
  match s, s.dropWhile fun c => c == ' ' || c == '\t' with
  | [], _ => some none
  | _, ['Z'] => some (some (false, 0, 0))
  | _, sign :: rest =>
    if sign == '-' || sign == '+' then
      (takeDigits? 1 2 rest).bind fun (hours, rest) =>
        match rest with
        | [] => some (some (sign == '-', hours, 0))
        | ':' :: rest =>
          (takeDigits? 2 2 rest).bind fun (minutes, rest) =>
            if rest.isEmpty then some (some (sign == '-', hours, minutes)) else none
        | _ => none
    else none
  | _, [] => none

/-- The time of day after a date, with its zone. -/
def takeClock? (s : List Char) : Option (Clock × Option (Bool × Nat × Nat)) :=
  (takeDigits? 1 2 s).bind fun (hour, rest) =>
  match rest with
  | ':' :: rest =>
    (takeDigits? 2 2 rest).bind fun (minute, rest) =>
    match rest with
    | ':' :: rest =>
      (takeDigits? 2 2 rest).bind fun (second, rest) =>
      let fraction := match rest with
        | '.' :: digits => digits.takeWhile Char.isDigit
        | _ => []
      let after := match rest with
        | '.' :: digits => digits.drop fraction.length
        | _ => rest
      (takeZone? after).map fun zone => (⟨hour, minute, second, microseconds fraction⟩, zone)
    | _ => none
  | _ => none

/-- Reads a date, with a time of day perhaps. -/
def Timestamp.ofChars? (s : List Char) : Option Timestamp :=
  (takeDigits? 4 4 s).bind fun (year, rest) =>
  match rest with
  | '-' :: rest =>
    (takeDigits? 1 2 rest).bind fun (month, rest) =>
    match rest with
    | '-' :: rest =>
      (takeDigits? 1 2 rest).bind fun (day, rest) =>
      let clock (rest : List Char) : Option Timestamp :=
        (takeClock? rest).map fun (clock, zone) => ⟨⟨year, month, day⟩, some clock, zone⟩
      match rest with
      | [] => some ⟨⟨year, month, day⟩, none, none⟩
      | 'T' :: rest => clock rest
      | 't' :: rest => clock rest
      | c :: rest =>
        if c == ' ' || c == '\t' then clock (rest.dropWhile fun c => c == ' ' || c == '\t')
        else none
    | _ => none
  | _ => none

/-- Whether a plain scalar is a date; one without a time has two digits for month and day. -/
def isTimestamp (s : List Char) : Bool :=
  match Timestamp.ofChars? s with
  | some t => t.clock.isSome || s.length == 10
  | none => false

/-- A text without the line feed at its end, of which one does not count for what it implies. -/
def dropLineFeed (s : List Char) : List Char :=
  if s.getLast? == some '\n' then s.dropLast else s

/-- The tag that the text of a scalar implies. The signs of tags, anchors and aliases by themselves
imply one that nothing has. -/
def Tag.ofPlain (text : String) : Tag :=
  let s := dropLineFeed text.toList
  let word := String.ofList s
  if ["yes", "Yes", "YES", "no", "No", "NO", "true", "True", "TRUE", "false", "False", "FALSE",
      "on", "On", "ON", "off", "Off", "OFF"].contains word then .bool
  else if isFloat s then .float
  else if isInt s then .int
  else if word == "<<" then .merge
  else if text.isEmpty || ["~", "null", "Null", "NULL"].contains word then .null
  else if isTimestamp s then .timestamp
  else if word == "=" then .value
  else if ["!", "&", "*"].contains word then .ofName (standardTagStem ++ "yaml")
  else .text

end Parlance.Yaml
