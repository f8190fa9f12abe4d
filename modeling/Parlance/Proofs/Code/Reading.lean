import Parlance.Proofs.Code.Lexing

/-!
# Reading expressions of the generated module

`read` gives the tree of a text that is one complete expression: a sum of operands, where an operand
is a string, a number, a name, a dictionary or a call, and where fields are taken of operands. Line
ends count for nothing inside brackets, and no expression goes on after a line end outside of them.
Arguments by position stand before those by keyword, and no keyword is given twice.

The reader is a machine with a stack of open brackets (`Reader`). It reads each lexeme once
(`Reader.step?`), so a text has one tree at most.
-/

namespace Parlance.Code

open Parlance.Text

/-! ## Trees -/

/-- The tree of an expression. -/
inductive Tree where
  | text (s : String)
  | number (n : Nat)
  /-- A constant that is a reserved word. -/
  | constant (word : String)
  /-- A variable, by its spelling. -/
  | name (s : String)
  | attribute (value : Tree) (field : String)
  | call (function : Tree) (positional : List Tree) (keywords : List (String × Tree))
  | dict (entries : List (Tree × Tree))
  | sum (left right : Tree)
deriving Repr

/-- The reserved words that are expressions. -/
def constants : List String := ["None", "True", "False"]

/-- The tree of a word, which must not be reserved unless it is a constant. -/
def wordTree? (word : String) : Option Tree :=
  if constants.contains word then some (.constant word)
  else if isKeyword word then none
  else some (.name word)

/-- A sum with one operand more; the first operand alone is no sum. -/
def addTo : Option Tree → Tree → Tree
  | none, value => value
  | some left, value => .sum left value

/-! ## The machine -/

/-- A bracket that is open: what it is added to, and what has been read inside. -/
inductive Frame where
  /-- The brackets of a call, and the keyword of the argument that is being read. -/
  | call (left : Option Tree) (function : Tree) (positional : List Tree)
      (keywords : List (String × Tree)) (keyword : Option String)
  /-- The brackets of a dictionary, and the key of the entry that is being read. -/
  | dict (left : Option Tree) (entries : List (Tree × Tree)) (key : Option Tree)
deriving Repr

/-- What may come next, with the sum of the operands before the last. -/
inductive Focus where
  /-- An item of a bracket, or its end. -/
  | item
  /-- An operand. -/
  | operand (left : Option Tree)
  /-- Anything that goes on after an operand. -/
  | after (left : Option Tree) (value : Tree)
  /-- The name of a field of an operand. -/
  | field (left : Option Tree) (value : Tree)
deriving Repr

namespace Focus

/-- What an operand would be added to, where one may come. -/
def left? : Focus → Option (Option Tree)
  | item => some none
  | operand left => some left
  | _ => none

/-- The expression that has been read, where one may end. -/
def value? : Focus → Option Tree
  | after left value => some (addTo left value)
  | _ => none

end Focus

namespace Frame

/-- The bracket with one item more. -/
def add? : Frame → Tree → Option Frame
  | call left function positional [] none, value =>
    some (call left function (positional ++ [value]) [] none)
  | call left function positional keywords (some keyword), value =>
    if (keywords.map (·.1)).contains keyword then none
    else some (call left function positional (keywords ++ [(keyword, value)]) none)
  | dict left entries (some key), value => some (dict left (entries ++ [(key, value)]) none)
  | _, _ => none

/-- What a mark makes of the bracket that it closes. -/
def close? : Frame → Mark → Option Focus
  | call left function positional keywords _, .closeRound =>
    some (.after left (.call function positional keywords))
  | dict left entries _, .closeCurly => some (.after left (.dict entries))
  | _, _ => none

end Frame

/-- The open brackets, the innermost first, and what may come next. -/
structure Reader where
  stack : List Frame
  focus : Focus
deriving Repr

namespace Reader

/-- Closes the innermost bracket. -/
def close? (mark : Mark) : Reader → Option Reader
  | ⟨frame :: stack, .item⟩ => (frame.close? mark).map (⟨stack, ·⟩)
  | ⟨frame :: stack, focus⟩ =>
    focus.value?.bind fun value =>
      (frame.add? value).bind fun full => (full.close? mark).map (⟨stack, ·⟩)
  | _ => none

/-- Reads a mark. -/
def stepMark? : Reader → Mark → Option Reader
  | ⟨stack, focus⟩, .plus => focus.value?.map fun value => ⟨stack, .operand (some value)⟩
  | ⟨stack, .after left value⟩, .dot => some ⟨stack, .field left value⟩
  | ⟨stack, .after left value⟩, .openRound => some ⟨.call left value [] [] none :: stack, .item⟩
  | ⟨stack, focus⟩, .openCurly => focus.left?.map fun left => ⟨.dict left [] none :: stack, .item⟩
  | ⟨.call left function positional keywords none :: stack, .after none (.name keyword)⟩, .equals =>
    some ⟨.call left function positional keywords (some keyword) :: stack, .operand none⟩
  | ⟨.dict left entries none :: stack, focus⟩, .colon =>
    focus.value?.map fun key => ⟨.dict left entries (some key) :: stack, .operand none⟩
  | ⟨frame :: stack, focus⟩, .comma =>
    focus.value?.bind fun value => (frame.add? value).map fun more => ⟨more :: stack, .item⟩
  | reader, .closeRound => reader.close? .closeRound
  | reader, .closeCurly => reader.close? .closeCurly
  | _, _ => none

/-- Reads an operand that is one lexeme. -/
def place? (reader : Reader) (value : Tree) : Option Reader :=
  reader.focus.left?.map fun left => ⟨reader.stack, .after left value⟩

/-- Reads a lexeme. -/
def step? (reader : Reader) : Lexeme → Option Reader
  | .newline => if reader.stack.isEmpty then none else some reader
  | .text s => reader.place? (.text s)
  | .number n => reader.place? (.number n)
  | .name word =>
    match reader.focus with
    | .field left value =>
      if isKeyword word then none else some ⟨reader.stack, .after left (.attribute value word)⟩
    | _ => (wordTree? word).bind reader.place?
  | .mark m => reader.stepMark? m

/-- Reads lexemes one after another. -/
def steps? : Reader → List Lexeme → Option Reader
  | reader, [] => some reader
  | reader, l :: rest => (reader.step? l).bind (steps? · rest)

/-- The expression that has been read, if no bracket is open. -/
def value? (reader : Reader) : Option Tree :=
  if reader.stack.isEmpty then reader.focus.value? else none

/-- A reader takes `ls ++ ms` as it takes `ls` and then `ms`. -/
theorem steps?_append (reader : Reader) (ls ms : List Lexeme) :
    reader.steps? (ls ++ ms) = (reader.steps? ls).bind (steps? · ms) := by
  induction ls generalizing reader with
  | nil => rfl
  | cons l rest ih =>
    rw [List.cons_append, steps?, steps?, Option.bind_assoc]
    exact congrArg _ (funext fun next => ih next)

end Reader

/-- The tree of a text that is one complete expression. -/
def read (s : String) : Option Tree :=
  (lex s).bind fun ls => (Reader.steps? ⟨[], .operand none⟩ ls).bind Reader.value?

example : read "str(n)+\"\\x41\"" =
    some (.sum (.call (.name "str") [.name "n"] []) (.text "A")) := rfl

example : read "f(a=1, b)" = none := rfl

example : read "a +\nb" = none := rfl

example : read "f(a +\nb,)" = some (.call (.name "f") [.sum (.name "a") (.name "b")] []) := rfl

end Parlance.Code
