import Parlance.Calendar
import Parlance.Decode
import Parlance.Number.Double

/-!
# Scalars of TOML

Strings of four sorts, integers in four bases, floating-point numbers, dates and times. Each reader
takes the text that is left and returns a value and what is left after it, or nothing if the text
is not of its form.
-/

namespace Parlance.Toml

open Parlance.Number

/-- Why a text is not TOML. -/
inductive Fault where
  | malformed
  /-- An integer with more digits than are read. -/
  | oversizedNumber (digits : Nat)
  /-- Arrays and inline tables that are nested in each other too deeply. -/
  | tooDeep
deriving DecidableEq, Repr

/-- A text that is not TOML. -/
def reject {α : Type} : Except Fault α := .error .malformed

/-- The result of a reader that knows no reason why it fails. -/
def require {α : Type} : Option α → Except Fault α
  | some a => .ok a
  | none => reject

/-- Whether a character is white space within a line. -/
def isGap (c : Char) : Bool := c == ' ' || c == '\t'

/-- The text after white space within a line. -/
def skipGap (s : List Char) : List Char := s.dropWhile isGap

/-- Whether a character may not stand in a comment or within a line of a string. -/
def isControl (c : Char) : Bool := (c.toNat < 0x20 && c != '\t') || c.toNat == 0x7F

/-- Whether a text starts with a character three times. -/
def startsTriple (q : Char) : List Char → Bool
  | a :: b :: c :: _ => a == q && b == q && c == q
  | _ => false

/-! ## Strings -/

/-- The rest of a literal string on one line. -/
def literalLine : List Char → Option (List Char × List Char)
  | [] => none
  | c :: rest =>
    if c == '\'' then some ([], rest)
    else if isControl c then none
    else (literalLine rest).map fun (s, after) => (c :: s, after)

/-- The rest of a literal string that three quotes end. -/
def literalLines : List Char → Option (List Char × List Char)
  | [] => none
  | c :: rest =>
    if startsTriple '\'' (c :: rest) then some ([], rest.drop 2)
    else if isControl c && c != '\n' then none
    else (literalLines rest).map fun (s, after) => (c :: s, after)

/-- The character that a letter after a backslash stands for. -/
def simpleEscape? : Char → Option Char
  | 'b' => some '\x08'
  | 't' => some '\t'
  | 'n' => some '\n'
  | 'f' => some '\x0c'
  | 'r' => some '\r'
  | '"' => some '"'
  | '\\' => some '\\'
  | _ => none

/-- The character of a code escape of a number of hexadecimal digits. -/
def codeEscape? (length : Nat) (rest : List Char) : Option Char :=
  if rest.length < length then none
  else (ofBaseDigits? 16 (rest.take length)).bind fun n =>
    if n < 0xD800 || (0xE000 ≤ n && n < 0x110000) then some (Char.ofNat n) else none

/-- How many characters after a backslash an escaped line end takes: white space to the end of the
line, the line feed, and all white space at the head of the lines below. -/
def lineEscape? (s : List Char) : Option Nat :=
  let margin := s.takeWhile isGap
  match s.drop margin.length with
  | [] => if margin.isEmpty then none else some margin.length
  | '\n' :: rest =>
    some (margin.length + 1 + (rest.takeWhile fun c => isGap c || c == '\n').length)
  | _ => none

/-- What an escape stands for, and how many characters after its backslash belong to it. -/
def escape? (multiline : Bool) (s : List Char) : Option (List Char × Nat) :=
  match s with
  | [] => none
  | c :: rest =>
    if multiline && (isGap c || c == '\n') then (lineEscape? s).map fun n => ([], n)
    else if c == 'u' then (codeEscape? 4 rest).map fun e => ([e], 5)
    else if c == 'U' then (codeEscape? 8 rest).map fun e => ([e], 9)
    else (simpleEscape? c).map fun e => ([e], 1)

/-- The rest of a basic string: one quote ends it, or three if it has several lines. The first
`skip` characters belong to an escape that has been read. -/
def basic (multiline : Bool) : Nat → List Char → Option (List Char × List Char)
  | _, [] => none
  | skip + 1, _ :: rest => basic multiline skip rest
  | 0, c :: rest =>
    if c == '"' && !multiline then some ([], rest)
    -- three quotes end a text of several lines
    else if multiline && startsTriple '"' (c :: rest) then some ([], rest.drop 2)
    else if c == '\\' then
      (escape? multiline rest).bind fun (e, n) =>
        (basic multiline n rest).map fun (s, after) => (e ++ s, after)
    else if isControl c && !(multiline && c == '\n') then none
    else (basic multiline 0 rest).map fun (s, after) => (c :: s, after)

/-- A string of several lines with the quotes, two at most, that stand before its end. -/
def withClosingQuotes (q : Char) : List Char × List Char → List Char × List Char
  | (s, a :: b :: rest) =>
    if a == q && b == q then (s ++ [q, q], rest)
    else if a == q then (s ++ [q], b :: rest)
    else (s, a :: b :: rest)
  | (s, [a]) => if a == q then (s ++ [q], []) else (s, [a])
  | (s, []) => (s, [])

/-- The text after a line feed that follows an opening mark. -/
def dropFirstBreak : List Char → List Char
  | '\n' :: rest => rest
  | s => s

/-- The string that a text starts with. -/
def string? (s : List Char) : Option (List Char × List Char) :=
  match s with
  | '"' :: rest =>
    if startsTriple '"' s then
      (basic true 0 (dropFirstBreak (s.drop 3))).map (withClosingQuotes '"')
    else basic false 0 rest
  | '\'' :: rest =>
    if startsTriple '\'' s then
      (literalLines (dropFirstBreak (s.drop 3))).map (withClosingQuotes '\'')
    else literalLine rest
  | _ => none

/-! ## Dates and times -/

/-- The number that some digits at the head of a text denote, and what is left. -/
def takeNumber? (count : Nat) (s : List Char) : Option (Nat × List Char) :=
  let digits := s.take count
  if digits.length == count && digits.all Char.isDigit then
    (ofDigits? digits).map fun n => (n, s.drop count)
  else none

/-- The time of day that a text starts with. -/
def clock? (s : List Char) : Option (Clock × List Char) :=
  (takeNumber? 2 s).bind fun (hour, rest) =>
  match rest with
  | ':' :: rest =>
    (takeNumber? 2 rest).bind fun (minute, rest) =>
    match rest with
    | ':' :: rest =>
      (takeNumber? 2 rest).bind fun (second, rest) =>
      let digits := match rest with
        | '.' :: more => more.takeWhile Char.isDigit
        | _ => []
      -- digits beyond the microseconds are dropped
      let six := digits.take 6
      let micro := ((ofDigits? six).getD 0) * tenTo (6 - six.length)
      let clock : Clock := ⟨hour, minute, second, micro⟩
      if clock.fault?.isSome then none
      else some (clock, if digits.isEmpty then rest else rest.drop (digits.length + 1))
    | _ => none
  | _ => none

/-- The date that a text starts with; its month and day are in the range of any month. -/
def date? (s : List Char) : Option (Date × List Char) :=
  (takeNumber? 4 s).bind fun (year, rest) =>
  match rest with
  | '-' :: rest =>
    (takeNumber? 2 rest).bind fun (month, rest) =>
    match rest with
    | '-' :: rest =>
      (takeNumber? 2 rest).bind fun (day, rest) =>
        if 1 ≤ month && month ≤ 12 && 1 ≤ day && day ≤ 31 then some (⟨year, month, day⟩, rest)
        else none
    | _ => none
  | _ => none

/-- The offset that a text starts with, as it is written after a time. -/
def offset? (s : List Char) : Option (String × List Char) :=
  match s with
  | 'Z' :: rest => some ("+00:00", rest)
  | 'z' :: rest => some ("+00:00", rest)
  | sign :: rest =>
    if sign == '+' || sign == '-' then
      (takeNumber? 2 rest).bind fun (hours, rest) =>
      match rest with
      | ':' :: rest =>
        (takeNumber? 2 rest).bind fun (minutes, rest) =>
          if hours < 24 && minutes < 60 then
            -- an offset of zero has no minus sign
            let shown := if hours == 0 && minutes == 0 then '+' else sign
            some (String.ofList (shown :: paddedDecimal 2 hours ++ ':' :: paddedDecimal 2 minutes),
              rest)
          else none
      | _ => none
    else none
  | [] => none

/-- The date, time or both that a text starts with. A day that its month lacks is refused. -/
def moment? (s : List Char) : Option (Except Fault (Value × List Char)) :=
  match date? s with
  | some (date, rest) =>
    let refused := date.fault?.isSome
    -- a time behind the date, or a date alone
    let timed : Option (Clock × List Char) := match rest with
      | c :: more => if c == 'T' || c == 't' || c == ' ' then clock? more else none
      | [] => none
    some (match timed with
      | some (clock, rest) =>
        let (zone, rest) := (offset? rest).getD ("", rest)
        if refused then reject
        else .ok (.moment .dateTime (date.text ++ " " ++ clock.text ++ zone), rest)
      | none => if refused then reject else .ok (.moment .date date.text, rest))
  | none => (clock? s).map fun (clock, rest) => .ok (.moment .time clock.text, rest)

/-! ## Numbers -/

/-- The digits that a text starts with, each after the first perhaps behind an underscore; empty if
it starts with no digit. -/
def digitRun (isDigit : Char → Bool) : List Char → List Char
  | '_' :: c :: rest => if isDigit c then '_' :: c :: digitRun isDigit rest else []
  | c :: rest => if isDigit c then c :: digitRun isDigit rest else []
  | [] => []

/-- Digits of a run, which must not start with an underscore. -/
def takeRun (isDigit : Char → Bool) (s : List Char) : List Char :=
  if s.head? == some '_' then [] else digitRun isDigit s

/-- The integer of a run of digits. -/
def intOfRun (negative : Bool) (base : Nat) (run : List Char) : Except Fault Value :=
  let digits := run.filter (· != '_')
  if base == 10 && digitLimit < digits.length then .error (.oversizedNumber digits.length)
  else
    match ofBaseDigits? base digits with
    | some n => .ok (.int (if negative then -(n : Int) else n))
    | none => reject

/-- The integer in another base that a text starts with. -/
def basedInt? (s : List Char) : Option (Except Fault (Value × List Char)) :=
  let read (base : Nat) (rest : List Char) : Option (Except Fault (Value × List Char)) :=
    let run := takeRun (fun c => (digitValue? base c).isSome) rest
    if run.isEmpty then none
    else some ((intOfRun false base run).map fun v => (v, rest.drop run.length))
  match s with
  | '0' :: 'x' :: rest => read 16 rest
  | '0' :: 'o' :: rest => read 8 rest
  | '0' :: 'b' :: rest => read 2 rest
  | _ => none

/-- The fraction that a text starts with, its point included. -/
def fractionRun (s : List Char) : List Char :=
  match s with
  | '.' :: rest =>
    let run := takeRun Char.isDigit rest
    if run.isEmpty then [] else '.' :: run
  | _ => []

/-- The exponent that a text starts with, its letter included. -/
def exponentRun (s : List Char) : List Char :=
  match s with
  | e :: rest =>
    if e == 'e' || e == 'E' then
      let sign := rest.takeWhile fun c => c == '+' || c == '-'
      let run := takeRun Char.isDigit (rest.drop sign.length)
      if 1 < sign.length || run.isEmpty then [] else e :: sign ++ run
    else []
  | [] => []

/-- The decimal number that a text starts with. A number that starts with a zero has no other digit
before its point. -/
def decimal? (s : List Char) : Option (Except Fault (Value × List Char)) :=
  let (negative, signless) := Decimal.takeSign s
  -- a zero at the beginning stands alone
  let whole := match signless with
    | '0' :: _ => ['0']
    | _ => takeRun Char.isDigit signless
  if whole.isEmpty then none
  else
    let afterWhole := signless.drop whole.length
    let fraction := fractionRun afterWhole
    let afterFraction := afterWhole.drop fraction.length
    let exponent := exponentRun afterFraction
    let rest := afterFraction.drop exponent.length
    if fraction.isEmpty && exponent.isEmpty then
      some ((intOfRun negative 10 whole).map fun v => (v, rest))
    else
      let digits := (whole ++ fraction ++ exponent).filter (· != '_')
      some ((require (Double.ofChars? digits)).map fun x =>
        (.float (if negative then x.negate else x), rest))

/-- The number that is not finite that a text starts with. -/
def nonFinite? (s : List Char) : Option (Value × List Char) :=
  let (negative, signless) := Decimal.takeSign s
  match signless with
  | 'i' :: 'n' :: 'f' :: rest => some (.float (.infinite negative), rest)
  | 'n' :: 'a' :: 'n' :: rest => some (.float .notANumber, rest)
  | _ => none

/-- The scalar that a text starts with. -/
def scalar (s : List Char) : Except Fault (Value × List Char) :=
  match s with
  | '"' :: _ => (require (string? s)).map fun (t, rest) => (.text (String.ofList t), rest)
  | '\'' :: _ => (require (string? s)).map fun (t, rest) => (.text (String.ofList t), rest)
  | 't' :: 'r' :: 'u' :: 'e' :: rest => .ok (.bool true, rest)
  | 'f' :: 'a' :: 'l' :: 's' :: 'e' :: rest => .ok (.bool false, rest)
  | _ =>
    -- a date begins like a number, so it is tried before
    match moment? s, basedInt? s, decimal? s, nonFinite? s with
    | some r, _, _, _ => r
    | none, some r, _, _ => r
    | none, none, some r, _ => r
    | none, none, none, some r => .ok r
    | none, none, none, none => reject

end Parlance.Toml
