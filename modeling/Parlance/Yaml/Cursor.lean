import Parlance.Text.Blank

/-!
# Places in a YAML text

A cursor is the text that is left with the line and column of its first character. Carriage returns
and next-line characters are taken for line feeds before a text is read, so that a line ends at a
line feed or at one of the two Unicode separators.
-/

namespace Parlance.Yaml

/-- Whether a character ends a line. -/
def isBreak (c : Char) : Bool := c == '\n' || c == '\u2028' || c == '\u2029'

/-- Line ends of all sorts but the Unicode separators as line feeds. -/
def unifyBreaks : List Char → List Char
  | [] => []
  | '\r' :: '\n' :: rest => '\n' :: unifyBreaks rest
  | c :: rest => (if c == '\r' || c == '\u0085' then '\n' else c) :: unifyBreaks rest

/-- Whether a character may stand in a YAML text. -/
def isAllowed (c : Char) : Bool :=
  let n := c.toNat
  n == 0x09 || n == 0x0A || n == 0x0D || (0x20 ≤ n && n ≤ 0x7E) || n == 0x85 ||
    (0xA0 ≤ n && n ≤ 0xFFFD) || 0x10000 ≤ n

/-- Whether a text is at its end or before a line break. -/
def atLineEnd : List Char → Bool
  | [] => true
  | c :: _ => isBreak c

/-- Whether a text is at its end or before a line break or space. -/
def atSpace : List Char → Bool
  | [] => true
  | c :: _ => isBreak c || c == ' '

/-- Whether a text is at its end or before a line break, space or tab. -/
def atBlank : List Char → Bool
  | [] => true
  | c :: _ => isBreak c || c == ' ' || c == '\t'

/-- Whether a line starts with three given characters and nothing that goes on with them. -/
def startsWithMark (mark : Char) : List Char → Bool
  | a :: b :: c :: rest => a == mark && b == mark && c == mark && atBlank rest
  | _ => false

/-- Whether a line starts or ends a document. -/
def atDocumentMark (s : List Char) : Bool := startsWithMark '-' s || startsWithMark '.' s

/-- A text that is left, and where it starts. -/
structure Cursor where
  rest : List Char
  index : Nat
  line : Nat
  column : Nat
deriving Repr

namespace Cursor

/-- The start of a text. -/
def start (s : List Char) : Cursor := ⟨s, 0, 0, 0⟩

/-- The cursor after one character. A byte order mark takes no column. -/
def step (c : Cursor) : Cursor :=
  match c.rest with
  | [] => c
  | ch :: rest =>
    if isBreak ch then ⟨rest, c.index + 1, c.line + 1, 0⟩
    else ⟨rest, c.index + 1, c.line, if ch == '\uFEFF' then c.column else c.column + 1⟩

/-- The cursor after a number of characters. -/
def advance : Nat → Cursor → Cursor
  | 0, c => c
  | n + 1, c => advance n c.step

/-- The cursor at a rest of the text. -/
def moveTo (c : Cursor) (rest : List Char) : Cursor := advance (c.rest.length - rest.length) c

end Cursor

end Parlance.Yaml
