import Parlance.Code.Literal
import Parlance.Value.Display

/-!
# Expressions of the generated module

The bodies of the generated accessors are built as trees and printed. A call and a dictionary may
have each part on a line of its own; the parts are then indented by one step more than what holds
them, and each is followed by a comma.
-/

namespace Parlance.Code

open Parlance.Number

mutual

/-- An expression. -/
inductive Expr where
  /-- A string. -/
  | literal (s : String)
  /-- A natural number. -/
  | number (n : Nat)
  /-- A parameter, a local variable, a constant, or a dotted path. -/
  | name (s : String)
  /-- A data value that is not a string. -/
  | data (v : Value)
  /-- Two strings joined. -/
  | join (left right : Expr)
  /-- A call, with its arguments on one line or one to a line. -/
  | call (function : String) (stacked : Bool) (arguments : List Argument)
  /-- A dictionary, one entry to a line. -/
  | dict (entries : List Pair)
  /-- A tuple. -/
  | tuple (items : List Expr)
deriving Repr

/-- An argument, by position or by keyword. -/
inductive Argument where
  | mk (keyword : Option String) (value : Expr)
deriving Repr

/-- An entry of a dictionary. -/
inductive Pair where
  | mk (key value : Expr)
deriving Repr

end

/-- One step of indentation. -/
def step : String := "    "

/-- The inside of a tuple; a single item keeps its comma. -/
def tupleItems : List String → String
  | [item] => item ++ ","
  | items => ", ".intercalate items

mutual

/-- The text of an expression that starts on a line with some indentation. -/
def Expr.print (indent : String) : Expr → String
  | .literal s => stringLiteral s
  | .number n => String.ofList (decimalDigits n)
  | .name s => s
  | .data v => v.display
  | .join left right => left.print indent ++ " + " ++ right.print indent
  | .call function true arguments =>
    let inner := indent ++ step
    let lines := (printArguments inner arguments).map fun a => inner ++ a ++ ",\n"
    function ++ "(\n" ++ String.join lines ++ indent ++ ")"
  | .call function false arguments =>
    function ++ "(" ++ ", ".intercalate (printArguments indent arguments) ++ ")"
  | .dict entries =>
    if entries.isEmpty then "\x7b\x7d"
    else
      let inner := indent ++ step
      let lines := (printPairs inner entries).map fun e => inner ++ e ++ ",\n"
      "\x7b\n" ++ String.join lines ++ indent ++ "\x7d"
  | .tuple items => "(" ++ tupleItems (printItems indent items) ++ ")"

/-- The texts of arguments. -/
def printArguments (indent : String) : List Argument → List String
  | [] => []
  | .mk keyword value :: rest =>
    let text := value.print indent
    (match keyword with
      | some k => k ++ "=" ++ text
      | none => text) :: printArguments indent rest

/-- The texts of the entries of a dictionary. -/
def printPairs (indent : String) : List Pair → List String
  | [] => []
  | .mk key value :: rest =>
    (key.print indent ++ ": " ++ value.print indent) :: printPairs indent rest

/-- The texts of the items of a tuple. -/
def printItems (indent : String) : List Expr → List String
  | [] => []
  | e :: rest => e.print indent :: printItems indent rest

end

namespace Argument

/-- An argument by position. -/
def positional (value : Expr) : Argument := .mk none value

/-- An argument by keyword. -/
def named (keyword : String) (value : Expr) : Argument := .mk (some keyword) value

end Argument

/-- A statement of an accessor. -/
inductive Statement where
  | assign (target : String) (value : Expr)
  | giveBack (value : Expr)
  | refuse (text : String)
deriving Repr

/-- The text of a statement that starts on a line with some indentation. -/
def Statement.print (indent : String) : Statement → String
  | .assign target value => target ++ " = " ++ value.print indent
  | .giveBack value => "return " ++ value.print indent
  | .refuse text => "raise NotImplementedError(" ++ stringLiteral text ++ ")"

end Parlance.Code
