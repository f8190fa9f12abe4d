import Parlance.Number.Digits

/-!
# Texts in the generated module

String literals in double quotes and documentation strings in three. Backslashes, double quotes and
control characters are written as escapes, so that a literal ends only where it is meant to.
-/

namespace Parlance.Code

open Parlance.Number

/-- Whether a character is a control character. -/
def isControl (c : Char) : Bool :=
  c.toNat < 0x20 || (0x7F ≤ c.toNat && c.toNat < 0xA0)

/-- A character as it stands in a literal. -/
def escapeChar (c : Char) : List Char :=
  match c with
  | '\\' => ['\\', '\\']
  | '"' => ['\\', '"']
  | '\n' => ['\\', 'n']
  | '\r' => ['\\', 'r']
  | '\t' => ['\\', 't']
  | c => if isControl c then '\\' :: 'x' :: hexDigits 2 c.toNat else [c]

/-- Characters as they stand in a literal. -/
def escapeChars (s : List Char) : List Char := s.flatMap escapeChar

/-- A text as it stands in a literal. -/
def escape (s : String) : String := String.ofList (escapeChars s.toList)

/-- The string literal of a text. -/
def stringLiteral (s : String) : String := "\"" ++ escape s ++ "\""

/-- A line of a documentation string after the first; an empty one is not indented. -/
def docLine (indent line : String) : String := if line.isEmpty then "" else indent ++ escape line

/-- The documentation string of some lines. One line stands alone; with more, the closing quotes
have a line of their own. -/
def docString (indent first : String) (rest : List String) : String :=
  let opening := indent ++ "\"\"\"" ++ escape first
  if rest.isEmpty then opening ++ "\"\"\""
  else
    opening ++ "\n" ++ "\n".intercalate (rest.map (docLine indent)) ++ "\n" ++ indent ++ "\"\"\""

/-- The documentation string of a list of lines, which must not be empty. -/
def docStringOfLines? (indent : String) : List String → Option String
  | [] => none
  | first :: rest => some (docString indent first rest)

end Parlance.Code
