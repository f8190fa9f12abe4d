import Parlance.Toml.Scalar
import Parlance.Toml.Table

/-!
# Reading TOML

A document is a list of lines: entries, headers of tables and headers of items of arrays of tables,
with comments and empty lines between them. Its value is the object of its top-level entries.
-/

namespace Parlance.Toml

/-- Whether a character may stand in a name without quotes. -/
def isBareChar (c : Char) : Bool := c.isAlphanum || c == '-' || c == '_'

/-- The text after a comment, if there is one. -/
def skipComment (s : List Char) : Except Fault (List Char) :=
  match s with
  | '#' :: rest =>
    if (rest.takeWhile (· != '\n')).any isControl then reject
    else .ok (rest.dropWhile (· != '\n'))
  | _ => .ok s

/-- The text after white space, line feeds and comments; the fuel is its length. -/
def skipLines : Nat → List Char → Except Fault (List Char)
  | 0, s => .ok s
  | fuel + 1, s =>
    let s := s.dropWhile fun c => isGap c || c == '\n'
    match s with
    | '#' :: _ => (skipComment s).bind (skipLines fuel)
    | _ => .ok s

/-! ## Names -/

/-- One part of a dotted name: bare, or a string on one line. -/
def namePart (s : List Char) : Except Fault (String × List Char) :=
  match s with
  | '"' :: rest => (require (basic false 0 rest)).map fun (t, rest) => (String.ofList t, rest)
  | '\'' :: rest => (require (literalLine rest)).map fun (t, rest) => (String.ofList t, rest)
  | _ =>
    let bare := s.takeWhile isBareChar
    if bare.isEmpty then reject else .ok (String.ofList bare, s.drop bare.length)

/-- A dotted name and the text after the white space behind it; the fuel is the text's length. -/
def dottedName : Nat → List Char → Except Fault (Path × List Char)
  | 0, _ => reject
  | fuel + 1, s =>
    (namePart s).bind fun (part, rest) =>
      match skipGap rest with
      | '.' :: more =>
        (dottedName fuel (skipGap more)).map fun (parts, rest) => (part :: parts, rest)
      | rest => .ok ([part], rest)

/-- A dotted name. -/
def name (s : List Char) : Except Fault (Path × List Char) := dottedName (s.length + 1) s

/-- The name of an entry, and the text of its value. -/
def entryName (s : List Char) : Except Fault (Path × List Char) :=
  (name s).bind fun (path, rest) =>
    match rest with
    | '=' :: more => .ok (path, skipGap more)
    | _ => reject

/-! ## Values -/

/-- How far arrays and inline tables may be nested in each other, in steps: an array is two of them
and an inline table three. -/
def stepLimit : Nat := 988

mutual

/-- The value that a text starts with, which collections of so many steps are around. -/
def value (steps : Nat) : Nat → List Char → Except Fault (Value × List Char)
  | 0, _ => reject
  | fuel + 1, s =>
    match s with
    | '[' :: rest =>
      -- a list takes two steps, and an inline table three
      if stepLimit < steps + 2 then .error .tooDeep
      else
        (skipLines rest.length rest).bind fun rest =>
          match rest with
          | ']' :: after => .ok (.list [], after)
          | _ => (items (steps + 2) fuel rest).map fun (vs, after) => (.list vs, after)
    | '\x7b' :: rest =>
      if stepLimit < steps + 3 then .error .tooDeep
      else
        match skipGap rest with
        | '\x7d' :: after => .ok (.object [], after)
        | rest =>
          (inlineEntries (steps + 3) fuel .empty rest).map fun (es, after) => (.object es, after)
    | _ => scalar s

/-- The items of an array and its end; a comma may follow the last. -/
def items (steps : Nat) : Nat → List Char → Except Fault (List Value × List Char)
  | 0, _ => reject
  | fuel + 1, s =>
    (value steps fuel s).bind fun (v, rest) =>
    (skipLines rest.length rest).bind fun rest =>
      match rest with
      | ']' :: after => .ok ([v], after)
      | ',' :: more =>
        (skipLines more.length more).bind fun more =>
          -- a comma may stand behind the last item
          match more with
          | ']' :: after => .ok ([v], after)
          | _ => (items steps fuel more).map fun (vs, after) => (v :: vs, after)
      | _ => reject

/-- The entries of an inline table and its end. -/
def inlineEntries (steps : Nat) :
    Nat → Tables → List Char → Except Fault (Assoc Value × List Char)
  | 0, _, _ => reject
  | fuel + 1, t, s =>
    (entryName s).bind fun (path, rest) =>
    (value steps fuel rest).bind fun (v, rest) =>
    (require (t.addInline path v)).bind fun t =>
      match skipGap rest with
      | '\x7d' :: after => .ok (t.entries, after)
      | ',' :: more => inlineEntries steps fuel t (skipGap more)
      | _ => reject

end

/-! ## Documents -/

/-- The tables so far and the path of the last header. -/
structure Place where
  tables : Tables
  header : Path

/-- The header of a table or of an item, after its first bracket. -/
def header (p : Place) (s : List Char) : Except Fault (Place × List Char) :=
  match s with
  | '[' :: rest =>
    (name (skipGap rest)).bind fun (path, rest) =>
      match p.tables.openItem path, rest with
      | some t, ']' :: ']' :: after => .ok (⟨t, path⟩, after)
      | _, _ => reject
  | _ =>
    (name (skipGap s)).bind fun (path, rest) =>
      match p.tables.openTable path, rest with
      | some t, ']' :: after => .ok (⟨t, path⟩, after)
      | _, _ => reject

/-- An entry of the last header's table. -/
def entry (p : Place) (s : List Char) : Except Fault (Place × List Char) :=
  (entryName s).bind fun (path, rest) =>
  (value 0 (2 * rest.length + 2) rest).bind fun (v, rest) =>
  (require (p.tables.addEntry p.header path v)).map fun t => ({ p with tables := t }, rest)

/-- What stands on a line before its comment. -/
def statement (p : Place) (s : List Char) : Except Fault (Place × List Char) :=
  match s with
  | '[' :: rest => header p rest
  | c :: _ =>
    if isBareChar c || c == '"' || c == '\'' then entry p s
    else if c == '#' || c == '\n' then .ok (p, s)
    else reject
  | [] => .ok (p, [])

/-- Reads the lines of a document; the fuel is the number of characters that are left, and one
more. -/
def lines : Nat → Place → List Char → Except Fault (Assoc Value)
  | 0, _, _ => reject
  | fuel + 1, p, s =>
    (statement p (skipGap s)).bind fun (p, rest) =>
    (skipComment (skipGap rest)).bind fun rest =>
      match rest with
      | [] => .ok p.tables.entries
      | '\n' :: below => lines fuel p below
      | _ => reject

/-- A text with a line feed for each carriage return with a line feed after it. -/
def unifyBreaks : List Char → List Char
  | [] => []
  | '\r' :: '\n' :: rest => '\n' :: unifyBreaks rest
  | c :: rest => c :: unifyBreaks rest

/-- Reads a TOML document. -/
def read : Decoder := fun text =>
  let s := unifyBreaks text.toList
  match lines (s.length + 1) ⟨.empty, []⟩ s with
  | .ok entries => .ok (.object entries)
  | .error .malformed => .error (.malformed "not a TOML document")
  | .error (.oversizedNumber digits) => .error (.noSuchValue (.oversizedNumber digits))
  | .error .tooDeep => .error (.noSuchValue .tooDeep)

end Parlance.Toml
