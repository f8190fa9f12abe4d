import Parlance.Value

/-!
# Writing JSON

Two layouts of one format: `compact` writes a value on one line, `indented` gives every item and
entry a line of its own. Only quotation marks, backslashes and control characters are escaped. What
JSON has no form for takes that of its nearest kin: a set is an array, and bytes are a string of the
characters with their numbers.
-/

namespace Parlance.Json

open Parlance.Number

/-- A character as it stands between quotation marks. -/
def escapeChar (c : Char) : List Char :=
  match c with
  | '"' => ['\\', '"']
  | '\\' => ['\\', '\\']
  | '\n' => ['\\', 'n']
  | '\r' => ['\\', 'r']
  | '\t' => ['\\', 't']
  | '\x08' => ['\\', 'b']
  | '\x0c' => ['\\', 'f']
  | c => if c.toNat < 0x20 then '\\' :: 'u' :: hexDigits 4 c.toNat else [c]

/-- A string in quotation marks. -/
def quote (s : String) : String := String.ofList ('"' :: s.toList.flatMap escapeChar ++ ['"'])

/-- The text of a value that holds no others. -/
def scalarText : Value → String
  | .null => "null"
  | .bool b => if b then "true" else "false"
  | .int i => intText i
  | .float (.infinite negative) => if negative then "-Infinity" else "Infinity"
  | .float .notANumber => "NaN"
  | .float x => x.text
  | .text s => quote s
  | .bytes b => quote (String.ofList (b.map fun x => Char.ofNat x.toNat))
  | .moment _ iso => quote iso
  | .list _ => "[]"
  | .set _ => "[]"
  | .object _ => "\x7b\x7d"

mutual

/-- A value on one line. -/
def compact : Value → String
  | .list items => "[" ++ ", ".intercalate (compactItems items) ++ "]"
  | .set members => "[" ++ ", ".intercalate (compactItems members) ++ "]"
  | .object entries => "\x7b" ++ ", ".intercalate (compactEntries entries) ++ "\x7d"
  | v => scalarText v

/-- The items of a list, each on one line. -/
def compactItems : List Value → List String
  | [] => []
  | v :: rest => compact v :: compactItems rest

/-- The entries of an object, each on one line. -/
def compactEntries : List (String × Value) → List String
  | [] => []
  | (name, v) :: rest => (quote name ++ ": " ++ compact v) :: compactEntries rest

end

/-- Lines between brackets, each with its indentation; no line leaves the brackets closed up. -/
def bracketed (opening closing : String) (step level : Nat) (inner : List String) : String :=
  if inner.isEmpty then opening ++ closing
  else
    let margin (n : Nat) := "\n" ++ String.ofList (List.replicate (step * n) ' ')
    let listed := ("," ++ margin (level + 1)).intercalate inner
    opening ++ margin (level + 1) ++ listed ++ margin level ++ closing

mutual

/-- A value over several lines, at a level of nesting. -/
def indentedAt (step level : Nat) : Value → String
  | .list items => bracketed "[" "]" step level (indentedItems step (level + 1) items)
  | .set members => bracketed "[" "]" step level (indentedItems step (level + 1) members)
  | .object entries => bracketed "\x7b" "\x7d" step level (indentedEntries step (level + 1) entries)
  | v => scalarText v

/-- The items of a list over several lines. -/
def indentedItems (step level : Nat) : List Value → List String
  | [] => []
  | v :: rest => indentedAt step level v :: indentedItems step level rest

/-- The entries of an object over several lines. -/
def indentedEntries (step level : Nat) : List (String × Value) → List String
  | [] => []
  | (name, v) :: rest =>
    (quote name ++ ": " ++ indentedAt step level v) :: indentedEntries step level rest

end

/-- A value over several lines, each level indented by a number of spaces more. -/
def indented (step : Nat) (v : Value) : String := indentedAt step 0 v

end Parlance.Json
