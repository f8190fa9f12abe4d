import Parlance.Message.Fault
import Parlance.Text.Blank
import Parlance.Text.Word

/-!
# Tokens of a message text

A message text is literal text in which braces open expressions, and inside an expression braces
open messages again. So every open brace switches between the two ways of reading, and the number
of braces that are open decides which one applies: an even number for literal text, an odd number
for an expression. White space separates words in an expression and is kept in literal text.

`scan` cuts a text into tokens. Each token knows the stretch of text it covers; the scanner looks
at one character after the other and passes over those that the last token covers.
-/

namespace Parlance

open Parlance.Text

/-- The kinds of token. -/
inductive TokenKind where
  | text
  | openBrace
  | closeBrace
  | comma
  | equals
  | number
  | identifier
  | endOfMessage
deriving DecidableEq, Repr

/-- A token with the stretch of text it covers; the value of literal text has its escapes
resolved. -/
structure Token where
  kind : TokenKind
  value : String
  start : Nat
  stop : Nat
deriving DecidableEq, Repr

/-- How literal text is quoted: between two marks every character stands for itself, and two marks
in a row are one. A mark that is not a single character quotes nothing. -/
structure Quoting where
  enabled : Bool
  mark : String
deriving DecidableEq, Repr

namespace Quoting

/-- No quoting. -/
def off : Quoting := ⟨false, "'"⟩

/-- The character that quotes, if there is one. -/
def escape? (q : Quoting) : Option Char :=
  if q.enabled then
    match q.mark.toList with
    | [c] => some c
    | _ => none
  else none

end Quoting

namespace Token

/-- The token at the end of every message. -/
def ending (index : Nat) : Token := ⟨.endOfMessage, "", index, index⟩

/-- A token as diagnostics mention it. -/
def describe (t : Token) : String :=
  if t.kind = .endOfMessage then "end of message" else s!"'{t.value}'"

/-- Whether a brace before this text opens an expression. With quoting every brace does; without it
only one that the start of a name follows, after white space at most. -/
def opensExpression (q : Quoting) (after : List Char) : Bool :=
  q.enabled ||
    match after.dropWhile isBlank with
    | c :: _ => c.isAlpha || c == '_'
    | [] => false

/-- Whether literal text ends before its next character, which is then a brace. A closing brace
with no brace open is literal unless quoting is on. -/
def endsText (q : Quoting) (depth : Nat) : List Char → Bool
  | [] => false
  | c :: rest =>
    q.escape? != some c &&
      ((c == '\x7b' && opensExpression q rest) || (c == '\x7d' && (0 < depth || q.enabled)))

/-- The literal text up to its end, with escapes resolved, and what is left after it. The flag says
whether the text starts between two marks. -/
def textRun (q : Quoting) (depth : Nat) : Bool → List Char → List Char × List Char
  | _, [] => ([], [])
  | true, c :: rest =>
    if q.escape? = some c then textRun q depth false rest
    else
      let (value, after) := textRun q depth true rest
      (c :: value, after)
  | false, c :: rest =>
    if q.escape? = some c then
      match rest with
      | [] => ([], [])
      | d :: more =>
        -- two marks are one character of the text
        if d = c then
          let (value, after) := textRun q depth false more
          (c :: value, after)
        else textRun q depth true (d :: more)
    -- outside of quotes a brace ends the run
    else if endsText q depth (c :: rest) then ([], c :: rest)
    else
      let (value, after) := textRun q depth false rest
      (c :: value, after)

/-- The word that an expression goes on with. -/
def word (s : List Char) : List Char := s.takeWhile isAsciiWordChar

/-- A word of digits is a number and any other an identifier. -/
def wordKind (w : List Char) : TokenKind := if w.all Char.isDigit then .number else .identifier

/-- What can stand in an expression. -/
def inExpression : List Expectation :=
  [.identifier, .number, .comma, .equals, .openBrace, .closeBrace]

/-- The tokens of the text that is left, where `skip` characters belong to the last token, `depth`
braces are open and `pos` is the offset of the next character. -/
def scan (q : Quoting) : Nat → Nat → Nat → List Char → Except MessageFault (List Token)
  | _, _, _, [] => .ok []
  | skip + 1, depth, pos, _ :: rest => scan q skip depth (pos + 1) rest
  | 0, depth, pos, c :: rest =>
    let single (kind : TokenKind) (depth : Nat) : Except MessageFault (List Token) :=
      (scan q 0 depth (pos + 1) rest).map (⟨kind, String.singleton c, pos, pos + 1⟩ :: ·)
    if depth % 2 = 0 then
      if endsText q depth (c :: rest) then
        if c = '\x7b' then single .openBrace (depth + 1) else single .closeBrace (depth - 1)
      else
        let (value, after) := textRun q depth false (c :: rest)
        -- escapes make the value shorter than the stretch of text it stands for
        let length := (c :: rest).length - after.length
        (scan q (length - 1) depth (pos + 1) rest).map
          (⟨.text, String.ofList value, pos, pos + length⟩ :: ·)
    else if isBlank c then scan q 0 depth (pos + 1) rest
    else if c = '\x7b' then single .openBrace (depth + 1)
    else if c = '\x7d' then single .closeBrace (depth - 1)
    else if c = ',' then single .comma depth
    else if c = '=' then single .equals depth
    else if isAsciiWordChar c then
      let w := word (c :: rest)
      (scan q (w.length - 1) depth (pos + 1) rest).map
        (⟨wordKind w, String.ofList w, pos, pos + w.length⟩ :: ·)
    else .error ⟨.unexpected inExpression (String.singleton c), pos, pos⟩

/-- The tokens of a text, without the one at its end. -/
def ofText (q : Quoting) (text : String) : Except MessageFault (List Token) :=
  scan q 0 0 0 text.toList

end Token

/-- The tokens of a message text, ending with the one that marks its end. -/
def tokenize (q : Quoting) (text : String) : Except MessageFault (List Token) :=
  (Token.ofText q text).map (· ++ [Token.ending text.length])

end Parlance
