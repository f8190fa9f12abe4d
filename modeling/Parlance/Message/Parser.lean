import Parlance.Depth
import Parlance.Message.Token
import Parlance.Number.Digits

/-!
# Reading a message from its tokens

The grammar of messages is

    message  := (text | expr)*
    expr     := "{" name "}"
              | "{" name "," ("plural" | "select") "," (key "{" message "}")* "}"
              | "{" name "," ("date" | "time") ["," identifier] "}"
    key      := "=" number | identifier | number

where a choice has a branch keyed `other` and no two branches of one key. The reader takes one
token at a time. Its state says what has been read of the innermost construct (`Stage`) and which
branches stand open around it (`OpenBranch`), so a state accepts or refuses the next token without
looking further, and no step goes back.
-/

namespace Parlance

open Parlance.Number

/-- Why a text has no message. -/
inductive ParseFailure where
  /-- The text breaks a rule of the grammar. -/
  | fault (f : MessageFault)
  /-- An exact key has more digits than an integer may. -/
  | oversizedNumber (digits : Nat)
deriving DecidableEq, Repr

/-- How messages are read. -/
structure ReadingOptions where
  /-- How literal text is quoted. -/
  quoting : Quoting
  /-- The names that are placeholders, when any other reference is to be kept as text. -/
  known : Option (List String)
  /-- How deeply choices may be nested. -/
  limit : Int
deriving Repr

namespace ReadingOptions

/-- The depth to which choices may be nested unless said otherwise. -/
def defaultLimit : Int := 32

/-- No quoting, and every reference is one. -/
def standard : ReadingOptions := ⟨Quoting.off, none, defaultLimit⟩

/-- Another limit, as far as the call stack bears it. -/
def nestedTo (options : ReadingOptions) (requested : Int) : ReadingOptions :=
  { options with limit := DepthGuard.effectiveLimit requested }

end ReadingOptions

namespace Message

/-- An expression of which the brace and the name have been read. -/
structure Head where
  start : Nat
  name : String
deriving Repr

/-- A choice some of whose branches have been read, the latest first. -/
structure OpenChoice where
  head : Head
  kind : ChoiceKind
  branches : List Branch
deriving Repr

/-- A branch whose message is being read: the nodes before its choice, the latest first, and its
key. -/
structure OpenBranch where
  siblings : List Node
  choice : OpenChoice
  key : Key
  keyStart : Nat
deriving Repr

/-- What has been read of the innermost construct. -/
inductive Stage where
  /-- Nodes of a message. -/
  | nodes
  /-- An opening brace. -/
  | opened (start : Nat)
  /-- A name. -/
  | named (head : Head)
  /-- A name and a comma. -/
  | typed (head : Head)
  /-- The keyword of a choice. -/
  | chosen (head : Head) (kind : ChoiceKind)
  /-- Branches of a choice. -/
  | branches (choice : OpenChoice)
  /-- The equals sign of an exact key. -/
  | exactKey (choice : OpenChoice) (keyStart : Nat)
  /-- The key of a branch. -/
  | keyed (choice : OpenChoice) (key : Key) (keyStart : Nat)
  /-- The keyword of an argument. -/
  | argument (head : Head) (kind : ArgumentKind)
  /-- The comma after the keyword of an argument. -/
  | format (head : Head) (kind : ArgumentKind)
  /-- The format of an argument. -/
  | formatted (head : Head) (kind : ArgumentKind) (skeleton : String)
deriving Repr

/-- What has been read: the nodes of the innermost message, the latest first, what comes after
them, and the branches that stand open, the innermost first. -/
structure State where
  nodes : List Node
  stage : Stage
  outer : List OpenBranch
deriving Repr

namespace State

/-- Nothing has been read. -/
def start : State := ⟨[], .nodes, []⟩

end State

/-- Adds literal text to the nodes read so far, as one node with text just before it. -/
def appendText : List Node → String → Span → List Node
  | .text before first :: rest, value, span =>
    .text (before ++ value) ⟨first.start, span.stop⟩ :: rest
  | nodes, value, span => .text value span :: nodes

/-- The stretch of text that a span covers. -/
def slice (source : List Char) (span : Span) : String :=
  String.ofList ((source.drop span.start).take (span.stop - span.start))

/-- A reference, or the text it was written as when its name is no placeholder. -/
def appendReference (known : Option (List String)) (source : List Char) (nodes : List Node)
    (name : String) (span : Span) : List Node :=
  match known with
  | some names =>
    if names.contains name then .reference name span :: nodes
    else appendText nodes (slice source span) span
  | none => .reference name span :: nodes

/-- Whether a token is the name of a placeholder: an identifier that does not start with a
digit. -/
def isName (t : Token) : Bool :=
  t.kind == .identifier &&
    match t.value.toList with
    | c :: _ => !c.isDigit
    | [] => true

namespace Stage

/-- What can come next; inside a message, what can come before its end. -/
def expected : Stage → List Expectation
  | nodes => [.text, .openBrace]
  | opened _ => [.placeholderName]
  | named _ => [.closeBrace, .comma]
  | typed _ => [.expressionType]
  | chosen _ _ => [.comma]
  | branches choice =>
    [if choice.kind = .plural then .exactKey else .caseLabel, .closeBrace]
  | exactKey _ _ => [.number]
  | keyed _ _ _ => [.openBrace]
  | argument _ _ => [.closeBrace]
  | format _ _ => [.dateFormat]
  | formatted _ _ _ => [.closeBrace]

end Stage

/-- A fault at an offset, with a diagnostic that points to one. -/
def failAt {α : Type} (reason : Reason) (located index : Nat) : Except ParseFailure α :=
  .error (.fault ⟨reason, located, index⟩)

/-- The stage after the key of a branch, which must be new to its choice. -/
def acceptKey (choice : OpenChoice) (key : Key) (keyStart : Nat) : Except ParseFailure Stage :=
  if choice.branches.any (·.key == key) then failAt (.duplicateBranch key) keyStart keyStart
  else .ok (.keyed choice key keyStart)

/-- The stage after a word that stands as the key of a branch. -/
def acceptWord (choice : OpenChoice) (t : Token) : Except ParseFailure Stage :=
  if choice.kind = .plural && !pluralCategories.contains t.value then
    failAt (.unknownCategory t.value) t.start t.start
  else acceptKey choice (.word t.value) t.start

/-- The stage after the number of an exact key. -/
def acceptNumber (choice : OpenChoice) (keyStart : Nat) (digits : List Char) :
    Except ParseFailure Stage :=
  if digitLimit < digits.length then .error (.oversizedNumber digits.length)
  else acceptKey choice (.exact ((ofDigits? digits).getD 0)) keyStart

/-- The stage after the word that says of which type an expression is. -/
def acceptType (head : Head) (t : Token) : Except ParseFailure Stage :=
  if t.value = "plural" then .ok (.chosen head .plural)
  else if t.value = "select" then .ok (.chosen head .select)
  else if t.value = "date" then .ok (.argument head .date)
  else if t.value = "time" then .ok (.argument head .time)
  else failAt (.unknownType t.value) t.start t.start

/-- The state after one more token. -/
def step (options : ReadingOptions) (source : List Char) (s : State) (t : Token) :
    Except ParseFailure State :=
  let refuse : Except ParseFailure State :=
    failAt (.unexpected s.stage.expected t.value) t.start t.start
  let advance (stage : Stage) : Except ParseFailure State := .ok { s with stage := stage }
  let close (nodes : List Node) : Except ParseFailure State := .ok ⟨nodes, .nodes, s.outer⟩
  -- the token after the brace of a branch is the first one that stands too deep
  if options.limit.toNat < s.outer.length then failAt (.tooDeep options.limit) t.start t.start
  else
    match s.stage, t.kind with
    | .nodes, .text => close (appendText s.nodes t.value ⟨t.start, t.stop⟩)
    | .nodes, .openBrace => advance (.opened t.start)
    | .nodes, .closeBrace =>
      match s.outer with
      | [] => refuse
      | b :: outer =>
        let branch := Branch.mk b.key s.nodes.reverse ⟨b.keyStart, t.stop⟩
        .ok ⟨b.siblings, .branches { b.choice with branches := branch :: b.choice.branches }, outer⟩
    | .opened start, .identifier =>
      if isName t then advance (.named ⟨start, t.value⟩) else refuse
    | .named head, .closeBrace =>
      close (appendReference options.known source s.nodes head.name ⟨head.start, t.stop⟩)
    | .named head, .comma => advance (.typed head)
    | .typed head, .identifier => (acceptType head t).bind advance
    | .chosen head kind, .comma => advance (.branches ⟨head, kind, []⟩)
    | .branches choice, .closeBrace =>
      if choice.branches.any Branch.isOther then
        close (.choice choice.kind choice.head.name choice.branches.reverse
          ⟨choice.head.start, t.stop⟩ :: s.nodes)
      else failAt (.missingOther choice.kind choice.head.name) choice.head.start choice.head.start
    | .branches choice, .equals =>
      if choice.kind = .plural then advance (.exactKey choice t.start) else refuse
    | .branches choice, .identifier => (acceptWord choice t).bind advance
    | .branches choice, .number => (acceptWord choice t).bind advance
    | .exactKey choice keyStart, .number =>
      (acceptNumber choice keyStart t.value.toList).bind advance
    | .keyed choice key keyStart, .openBrace =>
      .ok ⟨[], .nodes, ⟨s.nodes, choice, key, keyStart⟩ :: s.outer⟩
    | .argument head kind, .closeBrace =>
      close (.argument head.name kind none ⟨head.start, t.stop⟩ :: s.nodes)
    | .argument head kind, .comma => advance (.format head kind)
    | .format head kind, .identifier => advance (.formatted head kind t.value)
    | .formatted head kind skeleton, .closeBrace =>
      close (.argument head.name kind (some skeleton) ⟨head.start, t.stop⟩ :: s.nodes)
    | _, _ => refuse

/-- The state after some more tokens. -/
def steps (options : ReadingOptions) (source : List Char) :
    State → List Token → Except ParseFailure State
  | s, [] => .ok s
  | s, t :: rest =>
    match step options source s t with
    | .error e => .error e
    | .ok s => steps options source s rest

/-- The message that has been read when the text ends. -/
def finish (options : ReadingOptions) (s : State) (length : Nat) : Except ParseFailure Message :=
  if options.limit.toNat < s.outer.length then failAt (.tooDeep options.limit) length length
  else
    match s.stage, s.outer with
    | .nodes, [] => .ok s.nodes.reverse
    | .nodes, _ :: _ => failAt (.endsEarly [.closeBrace]) length length
    | stage, _ => failAt (.endsEarly stage.expected) length length

/-- The message of a list of tokens, without the one at the end, of a text. -/
def ofTokens (options : ReadingOptions) (source : List Char) (tokens : List Token) :
    Except ParseFailure Message :=
  (steps options source State.start tokens).bind fun s => finish options s source.length

/-- The message of a text. -/
def parse (options : ReadingOptions) (text : String) : Except ParseFailure Message :=
  match Token.ofText options.quoting text with
  | .error f => .error (.fault f)
  | .ok tokens => ofTokens options text.toList tokens

end Message

end Parlance
