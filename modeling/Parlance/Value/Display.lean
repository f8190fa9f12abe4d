import Parlance.Text.Printable
import Parlance.Value

/-!
# Values as source text

How a value is written in the generated module and in messages: numbers in decimal, `True`, `False`
and `None`, lists, sets and objects in brackets, and strings in quotes. A string takes single quotes
unless it holds one and no double quote.
-/

namespace Parlance

open Parlance.Number Parlance.Text

namespace Value

/-- The quotation mark that a string takes. -/
def quoteFor (s : List Char) : Char :=
  if s.contains '\'' && !s.contains '"' then '"' else '\''

/-- A character as it stands between quotation marks. -/
def quotedChar (quote c : Char) : List Char :=
  if c = quote || c = '\\' then ['\\', c]
  else if c = '\n' then ['\\', 'n']
  else if c = '\r' then ['\\', 'r']
  else if c = '\t' then ['\\', 't']
  else if isPrintable c then [c]
  else if c.toNat < 0x100 then '\\' :: 'x' :: hexDigits 2 c.toNat
  else if c.toNat < 0x10000 then '\\' :: 'u' :: hexDigits 4 c.toNat
  else '\\' :: 'U' :: hexDigits 8 c.toNat

/-- A string in quotation marks. -/
def quoted (s : String) : String :=
  let quote := quoteFor s.toList
  String.ofList (quote :: s.toList.flatMap (quotedChar quote) ++ [quote])

/-- A byte as it stands between quotation marks: only the characters of ASCII show. -/
def quotedByte (quote : Char) (b : UInt8) : List Char :=
  if b < 0x80 then quotedChar quote (Char.ofNat b.toNat) else '\\' :: 'x' :: hexDigits 2 b.toNat

/-- Bytes in quotation marks. -/
def quotedBytes (bytes : List UInt8) : String :=
  let quote := quoteFor (bytes.map fun b => Char.ofNat b.toNat)
  String.ofList ('b' :: quote :: bytes.flatMap (quotedByte quote) ++ [quote])

mutual

/-- The source text of a value. -/
def display : Value → String
  | null => "None"
  | bool true => "True"
  | bool false => "False"
  | int i => intText i
  | float x => x.text
  | text s => quoted s
  | bytes b => quotedBytes b
  | moment _ iso => iso
  | list items => "[" ++ ", ".intercalate (displayItems items) ++ "]"
  | set [] => "set()"
  | set members => "\x7b" ++ ", ".intercalate (displayItems members) ++ "\x7d"
  | object entries => "\x7b" ++ ", ".intercalate (displayEntries entries) ++ "\x7d"

/-- The source texts of the items of a list. -/
def displayItems : List Value → List String
  | [] => []
  | v :: rest => display v :: displayItems rest

/-- The source texts of the entries of an object. -/
def displayEntries : List (String × Value) → List String
  | [] => []
  | (name, v) :: rest => (quoted name ++ ": " ++ display v) :: displayEntries rest

end

/-- The text of a value where a string stands without quotation marks. -/
def plainText : Value → String
  | text s => s
  | other => display other

end Value

end Parlance
