/-!
# Message trees

A message is a list of nodes: runs of literal text, references to placeholders, choices among
branches, and date or time arguments. The branches of a choice hold messages again. Every node and
branch knows the stretch of source text it was read from.
-/

namespace Parlance

/-- A stretch of the source text, from `start` up to but not including `stop`. -/
structure Span where
  start : Nat
  stop : Nat
deriving DecidableEq, Repr, Inhabited

/-- Why two numbers are not the ends of a span. -/
inductive SpanFault where
  | negativeStart (start : Int)
  | reversed (start stop : Int)
deriving DecidableEq, Repr

namespace SpanFault

/-- The wording of a fault. -/
def message : SpanFault → String
  | negativeStart start => s!"Span start must be >= 0, got {start}"
  | reversed start stop => s!"Span end ({stop}) must be >= start ({start})"

end SpanFault

namespace Span

/-- The span between two offsets, which must be ordered and not negative. -/
def between (start stop : Int) : Except SpanFault Span :=
  if start < 0 then .error (.negativeStart start)
  else if stop < start then .error (.reversed start stop)
  else .ok ⟨start.toNat, stop.toNat⟩

end Span

/-- Two sorts of choice: by the number of a plural, and by the text of a case. -/
inductive ChoiceKind where
  | plural
  | select
deriving DecidableEq, Repr

/-- Two sorts of argument: a date and a time of day. -/
inductive ArgumentKind where
  | date
  | time
deriving DecidableEq, Repr

/-- What selects a branch: an exact number, or a word (a plural category or the name of a case). -/
inductive Key where
  | exact (value : Nat)
  | word (label : String)
deriving DecidableEq, Repr

namespace ChoiceKind

/-- The keyword of a choice. -/
def keyword : ChoiceKind → String
  | plural => "plural"
  | select => "select"

end ChoiceKind

namespace ArgumentKind

/-- The keyword of an argument. -/
def keyword : ArgumentKind → String
  | date => "date"
  | time => "time"

end ArgumentKind

namespace Key

/-- The branch that every choice has. -/
def other : Key := .word "other"

/-- A key as it is written, an exact number in its shortest form. -/
def text : Key → String
  | exact value => "=" ++ toString value
  | word label => label

/-- The number of an exact key. -/
def value? : Key → Option Nat
  | exact value => some value
  | word _ => none

end Key

mutual

/-- A part of a message. -/
inductive Node where
  /-- Literal text, with escapes resolved. -/
  | text (value : String) (span : Span)
  /-- The value of a placeholder. -/
  | reference (name : String) (span : Span)
  /-- The branch that a placeholder selects. -/
  | choice (kind : ChoiceKind) (name : String) (branches : List Branch) (span : Span)
  /-- A date or time, with the skeleton of its format. -/
  | argument (name : String) (kind : ArgumentKind) (skeleton : Option String) (span : Span)
deriving Repr

/-- A branch of a choice; its span runs from the key through the closing brace. -/
inductive Branch where
  | mk (key : Key) (message : List Node) (span : Span)
deriving Repr

end

/-- A parsed message. -/
abbrev Message := List Node

mutual

/-- Whether two parts are the same, spans included. -/
private def Node.isSame : Node → Node → Bool
  | .text value span, .text value' span' => value == value' && span == span'
  | .reference name span, .reference name' span' => name == name' && span == span'
  | .choice kind name branches span, .choice kind' name' branches' span' =>
    kind == kind' && name == name' && Branch.allSame branches branches' && span == span'
  | .argument name kind skeleton span, .argument name' kind' skeleton' span' =>
    name == name' && kind == kind' && skeleton == skeleton' && span == span'
  | _, _ => false

/-- Whether two messages are the same. -/
private def Node.allSame : List Node → List Node → Bool
  | [], [] => true
  | a :: as, b :: bs => Node.isSame a b && Node.allSame as bs
  | _, _ => false

/-- Whether two lists of branches are the same. -/
private def Branch.allSame : List Branch → List Branch → Bool
  | [], [] => true
  | .mk key message span :: as, .mk key' message' span' :: bs =>
    key == key' && Node.allSame message message' && span == span' && Branch.allSame as bs
  | _, _ => false

end

mutual

/-- `Node.isSame` tells equality. -/
private theorem Node.isSame_iff_eq : (a b : Node) → (Node.isSame a b = true ↔ a = b)
  | .text .., b | .reference .., b | .argument .., b => by
    cases b <;> simp [Node.isSame, and_assoc]
  | .choice _ _ as _, b => by cases b <;> simp [Node.isSame, Branch.allSame_iff_eq as, and_assoc]

/-- `Node.allSame` tells equality. -/
private theorem Node.allSame_iff_eq : (as bs : List Node) → (Node.allSame as bs = true ↔ as = bs)
  | [], bs => by cases bs <;> simp [Node.allSame]
  | _ :: _, [] => by simp [Node.allSame]
  | a :: as, b :: bs => by simp [Node.allSame, Node.isSame_iff_eq a b, Node.allSame_iff_eq as bs]

/-- `Branch.allSame` tells equality. -/
private theorem Branch.allSame_iff_eq :
    (as bs : List Branch) → (Branch.allSame as bs = true ↔ as = bs)
  | [], bs => by cases bs <;> simp [Branch.allSame]
  | _ :: _, [] => by simp [Branch.allSame]
  | .mk _ m _ :: as, .mk _ m' _ :: bs => by
    simp [Branch.allSame, Node.allSame_iff_eq m m', Branch.allSame_iff_eq as bs, and_assoc]

end

instance : DecidableEq Node := fun a b => decidable_of_iff _ (Node.isSame_iff_eq a b)

namespace Node

/-- The stretch of text that a node was read from. -/
def span : Node → Span
  | text _ span => span
  | reference _ span => span
  | choice _ _ _ span => span
  | argument _ _ _ span => span

end Node

namespace Branch

/-- What selects the branch. -/
def key : Branch → Key
  | mk key _ _ => key

/-- The message of the branch. -/
def message : Branch → Message
  | mk _ message _ => message

/-- The stretch of text that the branch was read from. -/
def span : Branch → Span
  | mk _ _ span => span

/-- Whether the branch is selected when no other is. -/
def isOther (b : Branch) : Bool := b.key == Key.other

/-- Whether the branch is selected by an exact number. -/
def isExact (b : Branch) : Bool := b.key.value?.isSome

end Branch

/-- The six plural categories. -/
def pluralCategories : List String := ["zero", "one", "two", "few", "many", "other"]

/-- The branches keyed by a number, in order. -/
def exactBranches (branches : List Branch) : List Branch := branches.filter Branch.isExact

/-- The branches keyed by a word other than `other`, in order. -/
def wordBranches (branches : List Branch) : List Branch :=
  branches.filter fun b => !b.isExact && !b.isOther

end Parlance
