import Parlance.Number.Digits
import Parlance.Yaml.Cursor
import Parlance.Yaml.Fault

/-!
# Scalars of YAML

The texts of scalars: in single or double quotes, plain, and in blocks. Where a scalar goes on over
several lines, a single line feed is folded to a space and further ones are kept; white space
around line breaks is dropped. Each reader returns the text of the scalar and what is left.
-/

namespace Parlance.Yaml

open Parlance.Number

/-- A text and what is left after it. -/
abbrev Scanned := List Char × List Char

/-- Puts characters in front of a text that was read. -/
def Scanned.prepend (front : List Char) (s : Scanned) : Scanned := (front ++ s.1, s.2)

/-! ## Folding -/

/-- White space inside a scalar that no text has followed yet. -/
inductive Gap where
  /-- White space within a line. -/
  | spaces (s : List Char)
  /-- Line breaks: the first, unless it was escaped, and those after it. -/
  | breaks (first : Option Char) (more : List Char)

namespace Gap

/-- No white space. -/
def none : Gap := .spaces []

/-- The gap with one more space or tab. -/
def space : Gap → Char → Gap
  | spaces s, c => spaces (s ++ [c])
  | breaks first more, _ => breaks first more

/-- The gap with one more line break. -/
def newline : Gap → Char → Gap
  | spaces _, c => breaks (some c) []
  | breaks first more, c => breaks first (more ++ [c])

/-- What the gap contributes to the text. -/
def text : Gap → List Char
  | spaces s => s
  | breaks .none more => more
  | breaks (some c) more =>
    if c != '\n' then c :: more else if more.isEmpty then [' '] else more

/-- Whether there is no white space. -/
def isNone : Gap → Bool
  | spaces s => s.isEmpty
  | breaks _ _ => false

/-- Whether there is a line break. -/
def hasBreak : Gap → Bool
  | spaces _ => false
  | breaks _ _ => true

end Gap

/-! ## Quoted scalars -/

/-- The rest of a scalar in single quotes, in which two quotes stand for one. -/
def singleQuoted : Gap → List Char → Except Fault Scanned
  | _, [] => .error .unterminatedQuote
  | gap, '\'' :: '\'' :: rest =>
    (singleQuoted .none rest).map (Scanned.prepend (gap.text ++ ['\'']))
  | gap, c :: rest =>
    if c == '\'' then .ok (gap.text, rest)
    else if isBreak c then
      if atDocumentMark rest then .error .unterminatedQuote else singleQuoted (gap.newline c) rest
    else if c == ' ' || c == '\t' then singleQuoted (gap.space c) rest
    else (singleQuoted .none rest).map (Scanned.prepend (gap.text ++ [c]))

/-- The character that a character after a backslash stands for. -/
def simpleEscape? : Char → Option Char
  | '0' => some '\x00'
  | 'a' => some '\x07'
  | 'b' => some '\x08'
  | 't' => some '\t'
  | '\t' => some '\t'
  | 'n' => some '\n'
  | 'v' => some '\x0b'
  | 'f' => some '\x0c'
  | 'r' => some '\r'
  | 'e' => some '\x1b'
  | ' ' => some ' '
  | '"' => some '"'
  | '\\' => some '\\'
  | '/' => some '/'
  | 'N' => some '\u0085'
  | '_' => some '\u00a0'
  | 'L' => some '\u2028'
  | 'P' => some '\u2029'
  | _ => none

/-- The number of hexadecimal digits that follow a letter after a backslash. -/
def codeLength? : Char → Option Nat
  | 'x' => some 2
  | 'u' => some 4
  | 'U' => some 8
  | _ => none

/-- The number that a code escape has after its letter. -/
def codeNumber? (length : Nat) (rest : List Char) : Option Nat :=
  if rest.length < length then none else ofBaseDigits? 16 (rest.take length)

/-- The second half of a pair of codes for one character, with the length of its escape. -/
def lowHalf? : List Char → Option (Nat × Nat)
  | '\\' :: letter :: rest =>
    (codeLength? letter).bind fun length =>
      (codeNumber? length rest).bind fun n =>
        if 0xDC00 ≤ n && n < 0xE000 then some (n - 0xDC00, length + 2) else none
  | _ => none

/-- The character of a code escape after its letter, and the length of the escape. Two halves of a
pair are one character; a half by itself is none, and a replacement stands for it. -/
def codeChar (length : Nat) (rest : List Char) : Except Fault (Char × Nat) :=
  match codeNumber? length rest with
  | none => .error .unknownEscape
  | some n =>
    if 0x110000 ≤ n then .error (.oversizedCode n)
    else if 0xD800 ≤ n && n < 0xDC00 then
      -- a character beyond the first plane is written by two codes
      match lowHalf? (rest.drop length) with
      | some (low, more) =>
        .ok (Char.ofNat (0x10000 + (n - 0xD800) * 0x400 + low), length + more)
      | none => .ok ('\uFFFD', length)
    else if 0xDC00 ≤ n && n < 0xE000 then .ok ('\uFFFD', length)
    else .ok (Char.ofNat n, length)

/-- The rest of a scalar in double quotes, with its escapes. The first `skip` characters belong to
an escape that has been read. -/
def doubleQuoted : Nat → Gap → List Char → Except Fault Scanned
  | _, _, [] => .error .unterminatedQuote
  | skip + 1, gap, _ :: rest => doubleQuoted skip gap rest
  | 0, gap, '\\' :: e :: rest =>
    match simpleEscape? e, codeLength? e with
    | some c, _ => (doubleQuoted 0 .none rest).map (Scanned.prepend (gap.text ++ [c]))
    | none, some length =>
      (codeChar length rest).bind fun (c, skip) =>
        (doubleQuoted skip .none rest).map (Scanned.prepend (gap.text ++ [c]))
    | none, none =>
      -- a line end behind a backslash joins the lines
      if isBreak e then
        if atDocumentMark rest then .error .unterminatedQuote
        else (doubleQuoted 0 (.breaks none []) rest).map (Scanned.prepend gap.text)
      else .error .unknownEscape
  | 0, gap, c :: rest =>
    if c == '"' then .ok (gap.text, rest)
    else if c == '\\' then .error .unknownEscape
    else if isBreak c then
      if atDocumentMark rest then .error .unterminatedQuote else doubleQuoted 0 (gap.newline c) rest
    else if c == ' ' || c == '\t' then doubleQuoted 0 (gap.space c) rest
    else (doubleQuoted 0 .none rest).map (Scanned.prepend (gap.text ++ [c]))

/-! ## Plain scalars -/

/-- A plain scalar, with whether a line break comes after it. -/
structure Plain where
  text : List Char
  rest : List Char
  endsLine : Bool

/-- Whether a plain scalar ends before a colon with the given text after it. -/
def colonEnds (inFlow : Bool) (rest : List Char) : Bool :=
  atBlank rest ||
    match rest with
    | c :: _ => inFlow && [',', '[', ']', '\x7b', '\x7d'].contains c
    | [] => true

/-- Whether a plain scalar ends before a character that is no space and no line break. -/
def endsPlain (inFlow : Bool) (c : Char) (rest : List Char) : Bool :=
  c == '\t' || (c == ':' && colonEnds inFlow rest) ||
    (inFlow && [',', '?', '[', ']', '\x7b', '\x7d'].contains c)

/-- A plain scalar: it goes on over lines that are indented by `indent` at least, and in a flow
collection over any. `column` counts the spaces since the last line break. -/
def plain (inFlow : Bool) (indent : Nat) : Gap → Nat → List Char → Plain
  | gap, _, [] => ⟨[], [], gap.hasBreak⟩
  | gap, column, c :: rest =>
    if c == ' ' then plain inFlow indent (gap.space c) (column + 1) rest
    else if isBreak c then
      if atDocumentMark rest then ⟨[], rest, true⟩ else plain inFlow indent (gap.newline c) 0 rest
    -- a comment, or a line that is not indented, ends the text
    else if endsPlain inFlow c rest || (c == '#' && !gap.isNone) ||
        (gap.hasBreak && !inFlow && column < indent) then
      ⟨[], c :: rest, gap.hasBreak⟩
    else
      let more := plain inFlow indent .none 0 rest
      { more with text := gap.text ++ c :: more.text }

/-! ## Block scalars -/

/-- What happens to the line breaks at the end of a block scalar. -/
inductive Chomping where
  | strip
  | clip
  | keep
deriving DecidableEq

/-- The header of a block scalar: chomping and indentation, in either order. -/
def blockHeader (s : List Char) : Chomping × Option Nat × List Char :=
  let chomping? : Char → Option Chomping
    | '-' => some .strip
    | '+' => some .keep
    | _ => none
  match s with
  | [] => (.clip, none, [])
  | a :: rest =>
    match chomping? a, ofDigits? [a] with
    -- the two indicators come in either order
    | some chomping, _ =>
      match rest with
      | b :: more =>
        match ofDigits? [b] with
        | some n => (chomping, some n, more)
        | none => (chomping, none, rest)
      | [] => (chomping, none, [])
    | none, some n =>
      match rest with
      | b :: more =>
        match chomping? b with
        | some chomping => (chomping, some n, more)
        | none => (.clip, some n, rest)
      | [] => (.clip, some n, [])
    | none, none => (.clip, none, s)

/-- The text after spaces and a comment, which must be at the end of a line, and after that line. -/
def restOfLine? (s : List Char) : Option (List Char) :=
  let s := s.dropWhile (· == ' ')
  let s := match s with
    | '#' :: _ => s.dropWhile fun c => !isBreak c
    | _ => s
  if atLineEnd s then some (s.drop 1) else none

/-- Line breaks, with up to `indent` spaces on each line: the breaks, the column that is reached and
what is left. -/
def blankLines (indent : Nat) : Nat → List Char → List Char × Nat × List Char
  | column, [] => ([], column, [])
  | column, c :: rest =>
    if c == ' ' && column < indent then blankLines indent (column + 1) rest
    else if isBreak c then
      let (breaks, reached, left) := blankLines indent 0 rest
      (c :: breaks, reached, left)
    else ([], column, c :: rest)

/-- Line breaks with any number of spaces on each line: the breaks, the greatest column of all
lines, the column that is reached and what is left. -/
def leadingLines : Nat → Nat → List Char → List Char × Nat × Nat × List Char
  | widest, column, [] => ([], widest, column, [])
  | widest, column, c :: rest =>
    if c == ' ' then leadingLines (max widest (column + 1)) (column + 1) rest
    else if isBreak c then
      let (breaks, widest, reached, left) := leadingLines widest 0 rest
      (c :: breaks, widest, reached, left)
    else ([], widest, column, c :: rest)

/-- Nothing is put in front of the text that is left (`blankLines`). -/
theorem length_blankLines_le (indent column : Nat) (s : List Char) :
    (blankLines indent column s).2.2.length ≤ s.length := by
  induction s generalizing column with
  | nil => simp [blankLines]
  | cons c rest ih =>
    unfold blankLines
    split
    · exact Nat.le_succ_of_le (ih _)
    · split
      · exact Nat.le_succ_of_le (ih _)
      · simp

/-- How the text of a block scalar ends. -/
structure BlockEnd where
  text : List Char
  lastBreak : List Char
  breaks : List Char
  rest : List Char

/-- What stands between two lines of a block scalar. A folded one turns the line feed between two
lines that start with neither a space nor a tab into a space, and drops it if empty lines follow. -/
def lineJoint (folded : Bool) (line lineBreak breaks next : List Char) : List Char :=
  let startsBlank (s : List Char) : Bool :=
    match s with
    | c :: _ => c == ' ' || c == '\t'
    | [] => false
  if folded && lineBreak == ['\n'] && !startsBlank line && !startsBlank next then
    if breaks.isEmpty then [' '] else []
  else lineBreak

/-- The lines of a block scalar, from the first character of a line after its indentation. -/
def blockLines (folded : Bool) (indent : Nat) (breaks s : List Char) : BlockEnd :=
  let line := s.takeWhile fun c => !isBreak c
  match _h : s.dropWhile fun c => !isBreak c with
  | [] => ⟨breaks ++ line, [], [], []⟩
  | lineBreak :: below =>
    let gap := blankLines indent 0 below
    if gap.2.1 = indent && !gap.2.2.isEmpty then
      let more := blockLines folded indent gap.1 gap.2.2
      { more with
        text := breaks ++ line ++ lineJoint folded s [lineBreak] gap.1 gap.2.2 ++ more.text }
    else ⟨breaks ++ line, [lineBreak], gap.1, gap.2.2⟩
termination_by s.length
decreasing_by
  have h₁ := length_blankLines_le indent 0 below
  have h₂ : (s.dropWhile fun c => !isBreak c).length ≤ s.length :=
    (List.dropWhile_suffix _).length_le
  rw [_h] at h₂
  simp only [List.length_cons] at h₂
  omega

/-- A block scalar after its indicator, in a block that is indented by `parent`. -/
def blockScalar (folded : Bool) (parent : Int) (s : List Char) : Except Fault Scanned :=
  let (chomping, increment, afterHeader) := blockHeader s
  match if increment == some 0 || !atSpace afterHeader then none else restOfLine? afterHeader with
  | none => .error .malformedBlockHeader
  | some body =>
    let least := max 1 (parent + 1).toNat
    let (indent, breaks, column, rest) : Nat × List Char × Nat × List Char :=
      match increment with
      | some n =>
        let indent := least + n - 1
        (indent, blankLines indent 0 body)
      | none =>
        -- without an indicator the first line that is not blank gives the indentation
        let (breaks, widest, column, rest) := leadingLines 0 0 body
        (max least widest, breaks, column, rest)
    let ending : BlockEnd :=
      if column = indent && !rest.isEmpty then blockLines folded indent breaks rest
      else ⟨[], [], breaks, rest⟩
    let final := match chomping with
      | .strip => []
      | .clip => ending.lastBreak
      | .keep => ending.lastBreak ++ ending.breaks
    .ok (ending.text ++ final, ending.rest)

end Parlance.Yaml
