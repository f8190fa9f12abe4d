import Parlance.Yaml.Cursor

/-!
# Why a text is not YAML

The wording of a fault shows the place where it was found: line and column counted from one, the
line around it, and a caret under it. Of a long line only what is near the place is shown.
-/

namespace Parlance.Yaml

/-! ## Places -/

/-- A place in a text, with what stands on its line before and after it. -/
structure Place where
  line : Nat
  column : Nat
  before : List Char
  after : List Char
deriving DecidableEq, Repr

/-- The place of a cursor in a text. -/
def Cursor.place (c : Cursor) (source : List Char) : Place :=
  ⟨c.line, c.column, ((source.take c.index).reverse.takeWhile fun c => !isBreak c).reverse,
    c.rest.takeWhile fun c => !isBreak c⟩

namespace Place

/-- From how many characters on a part of a line is cut, and how many are left of it then. -/
def cutFrom : Nat × Nat := (37, 32)

/-- What shows that a line was cut. -/
def ellipsis : List Char := " ... ".toList

/-- What is shown of the line before a place. -/
def shownBefore (s : List Char) : List Char :=
  if s.length < cutFrom.1 then s else ellipsis ++ s.drop (s.length - cutFrom.2)

/-- What is shown of the line after a place. -/
def shownAfter (s : List Char) : List Char :=
  if s.length < cutFrom.1 then s else s.take cutFrom.2 ++ ellipsis

/-- The lines that show a place. -/
def text (p : Place) : String :=
  let margin := List.replicate 4 ' '
  let before := shownBefore p.before
  s!"  in \"<unicode string>\", line {p.line + 1}, column {p.column + 1}:\n" ++
    String.ofList (margin ++ before ++ shownAfter p.after ++
      '\n' :: margin ++ List.replicate before.length ' ' ++ ['^'])

end Place

/-! ## Faults -/

/-- Why a text is not one YAML document. -/
inductive Fault where
  | disallowedCharacter
  | unexpectedCharacter
  | malformedDirective
  | malformedAnchor
  | malformedTag
  | malformedBlockHeader
  | unterminatedQuote
  | unknownEscape
  /-- A code in a scalar that is beyond all characters. -/
  | oversizedCode (code : Nat)
  | missingColon
  | misplacedEntry
  | misplacedKey
  | misplacedValue
  | missingNode
  | unclosedBlock
  | unclosedFlow
  | missingDocumentStart
  | severalDocuments
  | undefinedAlias
  | repeatedAnchor
  | undefinedTagHandle
  | unknownTag
  /-- A node with the tag of another sort of node. -/
  | misfit
  /-- A node of a sort in the place of a mapping. -/
  | notMapping (sort : String) (place : Option Place)
  | malformedBinary
  | compoundKey
  | malformedMerge
  | tooDeep
deriving DecidableEq, Repr

namespace Fault

/-- The wording of a fault. -/
def describe : Fault → String
  | disallowedCharacter => "special characters are not allowed"
  | unexpectedCharacter => "found character that cannot start any token"
  | malformedDirective => "while scanning a directive"
  | malformedAnchor => "while scanning an anchor"
  | malformedTag => "while scanning a tag"
  | malformedBlockHeader => "while scanning a block scalar"
  | unterminatedQuote => "found unexpected end of a quoted scalar"
  | unknownEscape => "found unknown escape character"
  | oversizedCode _ => "found an escape beyond all characters"
  | missingColon => "could not find expected ':'"
  | misplacedEntry => "sequence entries are not allowed here"
  | misplacedKey => "mapping keys are not allowed here"
  | misplacedValue => "mapping values are not allowed here"
  | missingNode => "expected the node content"
  | unclosedBlock => "expected <block end>"
  | unclosedFlow => "expected ',' or the end of a flow collection"
  | missingDocumentStart => "expected '<document start>'"
  | severalDocuments => "expected a single document in the stream"
  | undefinedAlias => "found undefined alias"
  | repeatedAnchor => "found duplicate anchor"
  | undefinedTagHandle => "found undefined tag handle"
  | unknownTag => "could not determine a constructor for the tag"
  | misfit => "expected another sort of node"
  | notMapping sort place =>
    s!"expected a mapping node, but found {sort}" ++
      match place with
      | some p => "\n" ++ p.text
      | none => ""
  | malformedBinary => "failed to decode base64 data"
  | compoundKey => "found unhashable key"
  | malformedMerge => "while constructing a mapping"
  | tooDeep => "nested too deeply"

end Fault

end Parlance.Yaml
