import Parlance.Yaml.Scalar

/-!
# Tokens of YAML

The tokens of a text, with the indentation of its blocks made explicit: every block collection has
a token where it starts and one where it ends. Whether a node is the key of a mapping is only known
at the colon after it; until then its place is a candidate (`Candidate`), and the colon inserts the
tokens of the key there.
-/

namespace Parlance.Yaml

open Parlance.Number

/-- An instruction to the reader at the head of a document. -/
inductive Directive where
  | version (major : Nat)
  | tagHandle (handle stem : String)
  | other
deriving DecidableEq, Repr

/-- Tokens. -/
inductive Token where
  | directive (d : Directive)
  | documentStart
  | documentEnd
  | blockSequenceStart
  | blockMappingStart
  | blockEnd
  | flowSequenceStart
  | flowSequenceEnd
  | flowMappingStart
  | flowMappingEnd
  | blockEntry
  | flowEntry
  | key
  | value
  | alias (name : String)
  | anchor (name : String) (place : Place)
  | tag (handle : Option String) (suffix : String) (place : Place)
  | scalar (text : String) (isPlain : Bool)
deriving DecidableEq, Repr

/-! ## Tokens in one piece -/

/-- Whether a character may stand in the name of an anchor, a tag handle or a directive. -/
def isNameChar (c : Char) : Bool := c.isAlphanum || c == '-' || c == '_'

/-- A name and what is left after it. -/
def takeName (s : List Char) : Scanned := (s.takeWhile isNameChar, s.dropWhile isNameChar)

/-- The text without the spaces it starts with. -/
def skipSpaces (s : List Char) : List Char := s.dropWhile (· == ' ')

/-- The name of an anchor or alias, after its indicator. -/
def anchorName (s : List Char) : Except Fault Scanned :=
  let (name, rest) := takeName s
  let ends := atBlank rest ||
    match rest with
    | c :: _ => ['?', ':', ',', ']', '\x7d', '%', '@', '\x60'].contains c
    | [] => true
  if name.isEmpty || !ends then .error .malformedAnchor else .ok (name, rest)

/-- The value of the byte that a percent sign and two hexadecimal digits stand for. -/
def escapedByte? : List Char → Option (UInt8 × List Char)
  | '%' :: a :: b :: rest => (ofBaseDigits? 16 [a, b]).map fun n => (n.toUInt8, rest)
  | _ => none

/-- Bytes written with percent signs, at most so many of them, and what is left. -/
def escapedBytes : Nat → List Char → List UInt8 × List Char
  | 0, s => ([], s)
  | n + 1, s =>
    match escapedByte? s with
    | some (b, rest) =>
      let (bytes, rest) := escapedBytes n rest
      (b :: bytes, rest)
    | none => ([], s)

/-- Whether a character stands for itself in the suffix of a tag. -/
def isTagChar (c : Char) : Bool :=
  c.isAlphanum || "-;/?:@&=+$,_.!~*'()[]".toList.contains c

/-- The suffix of a tag, in which bytes of UTF-8 may be written with percent signs; the fuel is the
number of characters that are left. -/
def tagSuffix : Nat → List Char → Option Scanned
  | 0, s => some ([], s)
  | fuel + 1, s =>
    match s with
    | '%' :: _ =>
      -- escapes in a row are the bytes of one text
      let (bytes, rest) := escapedBytes s.length s
      match rest, String.fromUTF8? ⟨bytes.toArray⟩ with
      | '%' :: _, _ => none
      | _, none => none
      | _, some text => (tagSuffix fuel rest).map (Scanned.prepend text.toList)
    | c :: rest =>
      if isTagChar c then (tagSuffix fuel rest).map (Scanned.prepend [c]) else some ([], s)
    | [] => some ([], [])

/-- The suffix of a tag, which must not be empty. -/
def takeTagSuffix (s : List Char) : Except Fault Scanned :=
  match tagSuffix s.length s with
  | none => .error .malformedTag
  | some (suffix, rest) => if suffix.isEmpty then .error .malformedTag else .ok (suffix, rest)

/-- The handle of a tag: an exclamation mark, or a name between two of them. -/
def takeHandle (s : List Char) : Except Fault Scanned :=
  match s with
  | '!' :: rest =>
    if rest.head? == some ' ' then .ok (['!'], rest)
    else
      let (name, after) := takeName rest
      match after with
      | '!' :: more => .ok ('!' :: name ++ ['!'], more)
      | _ => .error .malformedTag
  | _ => .error .malformedTag

/-- Whether an exclamation mark comes before the next space. -/
def hasHandle (s : List Char) : Bool :=
  (s.takeWhile fun c => !(isBreak c || c == ' ')).contains '!'

/-- The handle and suffix of a tag, after its exclamation mark. -/
def tagParts (s : List Char) : Except Fault (Option String × String × List Char) :=
  match s with
  | '<' :: rest =>
    (takeTagSuffix rest).bind fun (suffix, after) =>
      match after with
      | '>' :: more => .ok (none, String.ofList suffix, more)
      | _ => .error .malformedTag
  | _ =>
    if atBlank s then .ok (none, "!", s)
    else if hasHandle s then
      (takeHandle ('!' :: s)).bind fun (handle, after) =>
      (takeTagSuffix after).map fun (suffix, more) =>
        (some (String.ofList handle), String.ofList suffix, more)
    else
      (takeTagSuffix s).map fun (suffix, more) => (some "!", String.ofList suffix, more)

/-- A tag after its exclamation mark, which a space must end. -/
def takeTag (place : Place) (s : List Char) : Except Fault (Token × List Char) :=
  (tagParts s).bind fun (handle, suffix, rest) =>
    if atSpace rest then .ok (.tag handle suffix place, rest) else .error .malformedTag

/-- The version number of a directive. -/
def takeVersion? (s : List Char) : Option (Directive × List Char) :=
  let s := skipSpaces s
  let major := s.takeWhile Char.isDigit
  match s.drop major.length with
  | '.' :: rest =>
    let minor := rest.takeWhile Char.isDigit
    let after := rest.drop minor.length
    match ofDigits? major, ofDigits? minor with
    | some n, some _ => if atSpace after then some (.version n, after) else none
    | _, _ => none
  | _ => none

/-- The handle and stem of a directive. -/
def takeHandleDefinition (s : List Char) : Except Fault (Directive × List Char) :=
  (takeHandle (skipSpaces s)).bind fun (handle, after) =>
    if after.head? != some ' ' then .error .malformedDirective
    else
      (takeTagSuffix (skipSpaces after)).bind fun (stem, rest) =>
        if atSpace rest then .ok (.tagHandle (String.ofList handle) (String.ofList stem), rest)
        else .error .malformedDirective

/-- A directive after its percent sign, to the end of its line. -/
def takeDirective (s : List Char) : Except Fault (Token × List Char) :=
  let (name, rest) := takeName s
  if name.isEmpty || !atSpace rest then .error .malformedDirective
  else
    let body : Except Fault (Directive × List Char) :=
      match String.ofList name with
      | "YAML" =>
        match takeVersion? rest with
        | some r => .ok r
        | none => .error .malformedDirective
      | "TAG" => takeHandleDefinition rest
      | _ => .ok (.other, rest.dropWhile fun c => !isBreak c)
    body.bind fun (d, after) =>
      match restOfLine? after with
      | some below => .ok (.directive d, below)
      | none => .error .malformedDirective

/-! ## Layout -/

/-- A place where a key may have started: how many tokens came before it, and where it stands. In a
block, a candidate at the indentation of the block must turn out to be a key. -/
structure Candidate where
  tokensBefore : Nat
  required : Bool
  index : Nat
  line : Nat
  column : Nat
deriving Repr

/-- The state between two tokens. -/
structure Layout where
  /-- The whole text. -/
  source : List Char
  cursor : Cursor
  /-- The candidates of the flow collections around the cursor, innermost first, and below them
  that of the block. -/
  candidates : List (Option Candidate)
  /-- The indentation of the block, -1 outside all blocks. -/
  indent : Int
  /-- The indentations of the blocks around it. -/
  outer : List Int
  /-- Whether a key may start here. -/
  keyAllowed : Bool
  /-- The tokens so far, the last one first. -/
  reversed : List Token
deriving Repr

namespace Layout

/-- The state at the start of a text. A byte order mark there is skipped. -/
def start (s : List Char) : Layout :=
  let cursor := Cursor.start s
  ⟨s, if s.head? == some '\uFEFF' then cursor.step else cursor, [none], -1, [], true, []⟩

/-- Whether the cursor is in a flow collection. -/
def inFlow (l : Layout) : Bool := 1 < l.candidates.length

/-- The state with one more token. -/
def push (l : Layout) (t : Token) : Layout := { l with reversed := t :: l.reversed }

/-- The state with the cursor at a rest of the text. -/
def moveTo (l : Layout) (rest : List Char) : Layout := { l with cursor := l.cursor.moveTo rest }

/-- The state after some characters. -/
def advance (l : Layout) (n : Nat) : Layout := { l with cursor := Cursor.advance n l.cursor }

/-- Goes to the next token over spaces, comments and line breaks, outside flow collections of which
a break allows a key; the fuel is the number of characters that are left. -/
def skipToToken : Nat → Layout → Layout
  | 0, l => l
  | fuel + 1, l =>
    let rest := l.cursor.rest
    match rest with
    | ' ' :: _ => skipToToken fuel (l.advance 1)
    | '#' :: _ => skipToToken fuel (l.moveTo (rest.dropWhile fun c => !isBreak c))
    | c :: _ =>
      if isBreak c then
        -- on a new line a key may begin
        skipToToken fuel { l.advance 1 with keyAllowed := l.keyAllowed || !l.inFlow }
      else l
    | [] => l

/-- Gives up a candidate; one that must be a key is a fault. -/
def dropCandidate : Option Candidate → Except Fault (Option Candidate)
  | some c => if c.required then .error .missingColon else .ok none
  | none => .ok none

/-- Gives up the candidates on other lines or more than 1024 characters ago. -/
def dropStale (cursor : Cursor) : List (Option Candidate) →
    Except Fault (List (Option Candidate))
  | [] => .ok []
  | candidate :: rest =>
    let kept : Except Fault (Option Candidate) := match candidate with
      | some c =>
        if c.line != cursor.line || 1024 < cursor.index - c.index then dropCandidate candidate
        else .ok candidate
      | none => .ok none
    kept.bind fun k => (dropStale cursor rest).map fun ks => k :: ks

/-- Gives up the candidate of the innermost collection. -/
def forgetCandidate (l : Layout) : Except Fault Layout :=
  match l.candidates with
  | [] => .ok l
  | c :: rest => (dropCandidate c).map fun c => { l with candidates := c :: rest }

/-- Makes the cursor's place a candidate if a key may start there. -/
def saveCandidate (l : Layout) : Except Fault Layout :=
  if !l.keyAllowed then .ok l
  else
    l.forgetCandidate.map fun l =>
      -- at the indentation of its block nothing but a key can stand
      let c : Candidate :=
        ⟨l.reversed.length, !l.inFlow && l.indent == (l.cursor.column : Int), l.cursor.index,
          l.cursor.line, l.cursor.column⟩
      { l with candidates := some c :: l.candidates.drop 1 }

/-- Ends the blocks that are indented by more than a column. -/
def closeBlocks (column : Int) : Int → List Int → List Token → Int × List Int × List Token
  | indent, [], reversed => (indent, [], reversed)
  | indent, o :: outer, reversed =>
    if column < indent then closeBlocks column o outer (.blockEnd :: reversed)
    else (indent, o :: outer, reversed)

/-- Ends the blocks that are indented by more than a column; flow collections have none. -/
def unwind (l : Layout) (column : Int) : Layout :=
  if l.inFlow then l
  else
    let (indent, outer, reversed) := closeBlocks column l.indent l.outer l.reversed
    { l with indent := indent, outer := outer, reversed := reversed }

/-- Starts a block at a column if it is indented by more than the one around it. -/
def openBlock (l : Layout) (column : Nat) (t : Token) : Layout :=
  if l.indent < (column : Int) then
    { l with indent := column, outer := l.indent :: l.outer, reversed := t :: l.reversed }
  else l

/-- The reversed tokens with some put in after the first `before` tokens. -/
def insertAfter (reversed : List Token) (before : Nat) (tokens : List Token) : List Token :=
  let later := reversed.length - before
  reversed.take later ++ tokens.reverse ++ reversed.drop later

/-- A token that stands between documents. -/
def documentMark (l : Layout) (t : Token) : Except Fault Layout :=
  (l.unwind (-1)).forgetCandidate.map fun l =>
    ({ l with keyAllowed := false }.push t).advance 3

/-- The start of a flow collection. -/
def openFlow (l : Layout) (t : Token) : Except Fault Layout :=
  l.saveCandidate.map fun l =>
    ({ l with candidates := none :: l.candidates, keyAllowed := true }.push t).advance 1

/-- The end of a flow collection. -/
def closeFlow (l : Layout) (t : Token) : Except Fault Layout :=
  if !l.inFlow then .error .missingNode
  else
    l.forgetCandidate.map fun l =>
      ({ l with candidates := l.candidates.drop 1, keyAllowed := false }.push t).advance 1

/-- A comma in a flow collection. -/
def flowEntry (l : Layout) : Except Fault Layout :=
  l.forgetCandidate.map fun l => ({ l with keyAllowed := true }.push .flowEntry).advance 1

/-- A hyphen before an item of a block sequence. -/
def blockEntry (l : Layout) : Except Fault Layout :=
  if !l.inFlow && !l.keyAllowed then .error .misplacedEntry
  else
    let l := if l.inFlow then l else l.openBlock l.cursor.column .blockSequenceStart
    l.forgetCandidate.map fun l => ({ l with keyAllowed := true }.push .blockEntry).advance 1

/-- A question mark before a key. -/
def explicitKey (l : Layout) : Except Fault Layout :=
  if !l.inFlow && !l.keyAllowed then .error .misplacedKey
  else
    let l := if l.inFlow then l else l.openBlock l.cursor.column .blockMappingStart
    l.forgetCandidate.map fun l => ({ l with keyAllowed := !l.inFlow }.push .key).advance 1

/-- The colon after a candidate, which makes it a key. -/
def valueOf (l : Layout) (c : Candidate) : Layout :=
  -- the key's token, and that of the block it starts, belong before the candidate
  let startsBlock := !l.inFlow && l.indent < (c.column : Int)
  let inserted := if startsBlock then [.blockMappingStart, .key] else [.key]
  let l := { l with
    candidates := none :: l.candidates.drop 1
    keyAllowed := false
    reversed := insertAfter l.reversed c.tokensBefore inserted
    indent := if startsBlock then c.column else l.indent
    outer := if startsBlock then l.indent :: l.outer else l.outer }
  (l.push .value).advance 1

/-- The colon before a value. -/
def value (l : Layout) : Except Fault Layout :=
  match l.candidates with
  | some c :: _ => .ok (l.valueOf c)
  | _ =>
    if !l.inFlow && !l.keyAllowed then .error .misplacedValue
    else
      let l := if l.inFlow then l else l.openBlock l.cursor.column .blockMappingStart
      l.forgetCandidate.map fun l => ({ l with keyAllowed := !l.inFlow }.push .value).advance 1

/-- A token that may be or precede a key, in one piece. -/
def piece (l : Layout) (read : Except Fault (Token × List Char)) : Except Fault Layout :=
  l.saveCandidate.bind fun l =>
    read.map fun (t, rest) => ({ l with keyAllowed := false }.push t).moveTo rest

/-- A scalar in quotes. -/
def quoted (l : Layout) (read : Except Fault Scanned) : Except Fault Layout :=
  l.piece (read.map fun (text, rest) => (.scalar (String.ofList text) false, rest))

/-- A block scalar. -/
def block (l : Layout) (folded : Bool) (rest : List Char) : Except Fault Layout :=
  l.forgetCandidate.bind fun l =>
    (blockScalar folded l.indent rest).map fun (text, rest) =>
      ({ l with keyAllowed := true }.push (.scalar (String.ofList text) false)).moveTo rest

/-- A plain scalar; a line break after it allows a key. -/
def plainScalar (l : Layout) : Except Fault Layout :=
  l.saveCandidate.map fun l =>
    let p := plain l.inFlow (l.indent + 1).toNat .none 0 l.cursor.rest
    ({ l with keyAllowed := p.endsLine }.push (.scalar (String.ofList p.text) true)).moveTo p.rest

/-- Whether a plain scalar starts with a character. -/
def startsPlain (inFlow : Bool) (c : Char) (rest : List Char) : Bool :=
  !(isBreak c || " \t-?:,[]\x7b\x7d#&*!|>'\"%@\x60".toList.contains c) ||
    (!atBlank rest && (c == '-' || (!inFlow && (c == '?' || c == ':'))))

/-- Reads the token at the cursor, which is not at the end of the text. -/
def token (l : Layout) (c : Char) (rest : List Char) : Except Fault Layout :=
  let all := l.cursor.rest
  let atMargin := l.cursor.column == 0
  let separated := l.inFlow || atBlank rest
  if atMargin && c == '%' then
    (l.unwind (-1)).forgetCandidate.bind fun l =>
      (takeDirective rest).map fun (t, below) =>
        ({ l with keyAllowed := false }.push t).moveTo below
  else if atMargin && startsWithMark '-' all then l.documentMark .documentStart
  else if atMargin && startsWithMark '.' all then l.documentMark .documentEnd
  else if c == '[' then l.openFlow .flowSequenceStart
  else if c == '\x7b' then l.openFlow .flowMappingStart
  else if c == ']' then l.closeFlow .flowSequenceEnd
  else if c == '\x7d' then l.closeFlow .flowMappingEnd
  else if c == ',' then l.flowEntry
  else if c == '-' && atBlank rest then l.blockEntry
  else if c == '?' && separated then l.explicitKey
  else if c == ':' && separated then l.value
  else if c == '*' then
    l.piece ((anchorName rest).map fun (name, after) => (.alias (String.ofList name), after))
  else if c == '&' then
    l.piece ((anchorName rest).map fun (name, after) =>
      (.anchor (String.ofList name) (l.cursor.place l.source), after))
  else if c == '!' then l.piece (takeTag (l.cursor.place l.source) rest)
  else if c == '|' && !l.inFlow then l.block false rest
  else if c == '>' && !l.inFlow then l.block true rest
  else if c == '\'' then l.quoted (singleQuoted .none rest)
  else if c == '"' then l.quoted (doubleQuoted 0 .none rest)
  else if startsPlain l.inFlow c rest then l.plainScalar
  else .error .unexpectedCharacter

/-- Ends all blocks at the end of the text. -/
def finish (l : Layout) : Except Fault (List Token) :=
  (l.unwind (-1)).forgetCandidate.map fun l => l.reversed.reverse

/-- Reads all tokens; the fuel is the number of characters that are left, and one more. -/
def run : Nat → Layout → Except Fault (List Token)
  | 0, _ => .error .tooDeep
  | fuel + 1, l =>
    let l := skipToToken l.cursor.rest.length l
    -- candidates end with their line, before the blocks that the next token's column ends
    (dropStale l.cursor l.candidates).bind fun candidates =>
    let l := { l with candidates := candidates }.unwind l.cursor.column
    match l.cursor.rest with
    | [] => l.finish
    | c :: rest => (l.token c rest).bind (run fuel)

end Layout

/-- The tokens of a text. -/
def tokens (text : String) : Except Fault (List Token) :=
  let source := text.toList
  if !source.all isAllowed then .error .disallowedCharacter
  else
    let s := unifyBreaks source
    Layout.run (s.length + 1) (.start s)

end Parlance.Yaml
