import Parlance.Decode
import Parlance.Json.Fault

/-!
# Reading JSON

A reader takes the text that is left and returns a value and what is left after it. Beyond the
standard, `NaN`, `Infinity` and `-Infinity` are numbers; of two entries with one name the later
gives the value at the place of the earlier. Integers have at most `Number.digitLimit` digits, and
how deeply lists and objects may be nested in each other is up to the caller. Texts are made of
characters, so that an escape for half of a surrogate pair alone is refused.
-/

namespace Parlance.Json

open Parlance.Number

/-- The white space between the tokens of a JSON text. -/
def isGap (c : Char) : Bool := c == ' ' || c == '\t' || c == '\n' || c == '\r'

/-- The text from its first character that is not white space. -/
def skipGap (s : List Char) : List Char := s.dropWhile isGap

/-- A fault at the place where the given text is left. -/
def fail {α : Type} (cause : Cause) (rest : List Char) : Except Fault α :=
  .error ⟨cause, rest.length⟩

/-! ## Strings -/

/-- The character that a letter after a backslash stands for. -/
def simpleEscape? : Char → Option Char
  | '"' => some '"'
  | '\\' => some '\\'
  | '/' => some '/'
  | 'b' => some '\x08'
  | 'f' => some '\x0c'
  | 'n' => some '\n'
  | 'r' => some '\r'
  | 't' => some '\t'
  | _ => none

/-- The code unit that four hexadecimal digits denote. -/
def codeUnit? (s : List Char) : Option Nat :=
  if s.length < 4 then none else ofBaseDigits? 16 (s.take 4)

/-- The character of a code escape, given the text after its `u`, and how many characters of that
text belong to it: four, or ten for a surrogate pair. -/
def codeEscape (s : List Char) : Except Fault (Char × Nat) :=
  let bad (cause : Cause) (rest : List Char) : Except Fault (Char × Nat) :=
    .error ⟨cause, rest.length + 1⟩
  if s.length < 5 then bad .malformedCodeEscape s
  else match codeUnit? s with
    | none => bad .malformedCodeEscape s
    | some high =>
      -- half of a pair without its other half
      let alone : Except Fault (Char × Nat) :=
        if 0xD800 ≤ high && high < 0xE000 then bad .loneSurrogate s else .ok (Char.ofNat high, 4)
      match s.drop 4 with
      | '\\' :: 'u' :: rest =>
        if 0xD800 ≤ high && high < 0xDC00 && 5 ≤ rest.length then
          match codeUnit? rest with
          | none => bad .malformedCodeEscape rest
          | some low =>
            if 0xDC00 ≤ low && low < 0xE000 then
              .ok (Char.ofNat (0x10000 + (high - 0xD800) * 0x400 + (low - 0xDC00)), 10)
            else alone
        else alone
      | _ => alone

/-- The character of an escape, given the text after its backslash, and how many characters of that
text belong to it. -/
def readEscape (start : Nat) (s : List Char) : Except Fault (Char × Nat) :=
  match s with
  | [] => .error ⟨.unterminatedString, start⟩
  | 'u' :: rest => (codeEscape rest).map fun r => (r.1, r.2 + 1)
  | c :: _ =>
    match simpleEscape? c with
    | some e => .ok (e, 1)
    | none => .error ⟨.unknownEscape, s.length + 1⟩

/-- The characters up to the closing quotation mark, and the text after it. The first `skip`
characters belong to an escape that has been read; `start` is the place of the opening mark. -/
def readString (start : Nat) : Nat → List Char → Except Fault (List Char × List Char)
  | _, [] => .error ⟨.unterminatedString, start⟩
  | skip + 1, _ :: rest => readString start skip rest
  | 0, c :: rest =>
    if c = '"' then .ok ([], rest)
    else if c = '\\' then
      match readEscape start rest with
      | .error e => .error e
      | .ok (e, n) => (readString start n rest).map fun r => (e :: r.1, r.2)
    else if c.toNat < 0x20 then fail .controlCharacter (c :: rest)
    else (readString start 0 rest).map fun r => (c :: r.1, r.2)

/-! ## Numbers -/

/-- The integer part of a number: zero, or digits that do not start with it. -/
def wholePart (s : List Char) : List Char :=
  match s with
  | '0' :: _ => ['0']
  | s => s.takeWhile Char.isDigit

/-- The fraction that the text starts with, the point included; empty unless a digit follows it. -/
def fractionPart (s : List Char) : List Char :=
  match s with
  | '.' :: rest =>
    let digits := rest.takeWhile Char.isDigit
    if digits.isEmpty then [] else '.' :: digits
  | _ => []

/-- The exponent that the text starts with; empty unless it has a digit. -/
def exponentPart (s : List Char) : List Char :=
  match s with
  | e :: rest =>
    if e = 'e' || e = 'E' then
      let sign := match rest with
        | c :: _ => if c = '+' || c = '-' then [c] else []
        | [] => []
      let digits := (rest.drop sign.length).takeWhile Char.isDigit
      -- without digits the letter is not part of the number
      if digits.isEmpty then [] else e :: sign ++ digits
    else []
  | [] => []

/-- A number, given the text without its sign and the text with it. -/
def readNumber (negative : Bool) (s whole : List Char) : Except Fault (Value × List Char) :=
  let int := wholePart s
  if int.isEmpty then fail .expectingValue whole
  else
    let rest := s.drop int.length
    let fraction := fractionPart rest
    let exponent := exponentPart (rest.drop fraction.length)
    let after := rest.drop (fraction.length + exponent.length)
    -- a number with neither part is an integer
    if fraction.isEmpty && exponent.isEmpty then
      if digitLimit < int.length then fail (.oversizedNumber int.length) whole
      else
        let n := (ofDigits? int).getD 0
        .ok (.int (if negative then -(n : Int) else n), after)
    else
      let sign := if negative then ['-'] else []
      .ok (.float ((Double.ofChars? (sign ++ int ++ fraction ++ exponent)).getD .notANumber), after)

/-- What is left after a word, if the text starts with it. -/
def afterWord? (word : String) (s : List Char) : Option (List Char) :=
  if word.toList.isPrefixOf s then some (s.drop word.length) else none

/-- A value that is neither a string nor a list nor an object. -/
def readScalar (s : List Char) : Except Fault (Value × List Char) :=
  let constants : List (String × Value) :=
    [("null", .null), ("true", .bool true), ("false", .bool false), ("NaN", .float .notANumber),
     ("Infinity", .float (.infinite false)), ("-Infinity", .float (.infinite true))]
  match constants.findSome? fun c => (afterWord? c.1 s).map fun rest => (c.2, rest) with
  | some r => .ok r
  | none =>
    match s with
    | '-' :: rest => readNumber true rest s
    | s => readNumber false s s

/-! ## Values -/

section

variable (limit : Nat)

mutual

/-- The value that the text starts with, which `level` lists and objects are around; `limit` is how
many there may be. -/
def readValue (level : Nat) : Nat → List Char → Except Fault (Value × List Char)
  | 0, s => fail .expectingValue s
  | fuel + 1, s =>
    match s with
    | '"' :: rest =>
      (readString s.length 0 rest).map fun r => (.text (String.ofList r.1), r.2)
    | '\x7b' :: rest =>
      if level = limit then fail .tooDeep s
      else
        match skipGap rest with
        | '}' :: after => .ok (.object [], after)
        | inner => (readMembers (level + 1) fuel [] inner).map fun r => (.object r.1, r.2)
    | '[' :: rest =>
      if level = limit then fail .tooDeep s
      else
        match skipGap rest with
        | ']' :: after => .ok (.list [], after)
        | inner => (readItems (level + 1) fuel inner).map fun r => (.list r.1, r.2)
    | s => readScalar s

/-- The items of a list up to its bracket, the text starting at an item. -/
def readItems (level : Nat) : Nat → List Char → Except Fault (List Value × List Char)
  | 0, s => fail .expectingValue s
  | fuel + 1, s =>
    match readValue level fuel s with
    | .error e => .error e
    | .ok (v, rest) =>
      match skipGap rest with
      | ']' :: after => .ok ([v], after)
      | ',' :: more => (readItems level fuel (skipGap more)).map fun r => (v :: r.1, r.2)
      | other => fail .expectingComma other

/-- The entries of an object up to its brace after those already read, the text starting at a
name. -/
def readMembers (level : Nat) :
    Nat → Assoc Value → List Char → Except Fault (Assoc Value × List Char)
  | 0, _, s => fail .expectingName s
  | fuel + 1, entries, s =>
    match s with
    | '"' :: inner =>
      match readString s.length 0 inner with
      | .error e => .error e
      | .ok (name, rest) =>
        match skipGap rest with
        | ':' :: rest =>
          match readValue level fuel (skipGap rest) with
          | .error e => .error e
          | .ok (v, rest) =>
            -- a name that comes again has its last value
            let entries := entries.set (String.ofList name) v
            match skipGap rest with
            | '}' :: after => .ok (entries, after)
            | ',' :: more => readMembers level fuel entries (skipGap more)
            | other => fail .expectingComma other
        | other => fail .expectingColon other
    | s => fail .expectingName s

end

/-- The value of a whole text, with white space around it. -/
def readAll (s : List Char) : Except Fault Value :=
  match s with
  | '\uFEFF' :: _ => fail .byteOrderMark s
  | s =>
    -- every step of the reader takes at least one character
    match readValue limit 0 (2 * s.length + 2) (skipGap s) with
    | .error e => .error e
    | .ok (v, rest) =>
      match skipGap rest with
      | [] => .ok v
      | extra => fail .extraData extra

/-- Reads a JSON text in which lists and objects are nested in each other up to a limit. -/
def read (text : String) : Except (Cause × Place) Value :=
  match readAll limit text.toList with
  | .ok v => .ok v
  | .error e => .error (e.cause, Place.of text.toList (text.length - e.left))

/-- The reader of JSON texts with lists and objects nested up to a limit. -/
def decoder : JsonDecoder := fun text =>
  match read limit text with
  | .ok v => .ok v
  | .error (.oversizedNumber digits, _) => .error (.oversizedNumber digits)
  | .error (.tooDeep, _) => .error .tooDeep
  | .error (cause, place) => .error (.malformed (describe cause place))

end

end Parlance.Json
