import Parlance.Message.Tree

/-!
# Walking through a message

A walk visits the parts of a message in the order of the source, a part before what it holds. Going
into a part takes one level of depth, and the walk stops at the first part that it may not go into.
Parts of a class that is a leaf of the walk are visited but not gone into.
-/

namespace Parlance

/-- The classes of the parts of a message. -/
inductive PartClass where
  | message
  | text
  | branch
  | reference
  | plural
  | select
  | argument
deriving DecidableEq, Repr

/-- A part of a message: a message, a branch, or a node. -/
inductive Part where
  | message (m : Message)
  | branch (b : Branch)
  | node (n : Node)
deriving Repr

namespace Part

/-- The class of a node. -/
def classOfNode : Node → PartClass
  | .text _ _ => .text
  | .reference _ _ => .reference
  | .choice .plural _ _ _ => .plural
  | .choice .select _ _ _ => .select
  | .argument _ _ _ _ => .argument

/-- The class of a part. -/
def classOf : Part → PartClass
  | message _ => .message
  | branch _ => .branch
  | node n => classOfNode n

end Part

/-- What a walk has visited, and whether it came to its end. -/
structure Walk where
  visited : List Part
  complete : Bool
deriving Repr

namespace Walk

/-- A walk that visits nothing. -/
def empty : Walk := ⟨[], true⟩

/-- One walk and then another, which does not start if the first has stopped. -/
def andThen (a b : Walk) : Walk :=
  if a.complete then ⟨a.visited ++ b.visited, b.complete⟩ else a

/-- A visit to a part, and the walk through what it holds unless the part is a leaf. No depth left
stops the walk at a part that is no leaf. -/
def visit (isLeaf : PartClass → Bool) (part : Part) (depth : Nat) (inside : Walk) : Walk :=
  if isLeaf part.classOf then ⟨[part], true⟩
  else if depth = 0 then ⟨[part], false⟩
  else ⟨part :: inside.visited, inside.complete⟩

mutual

/-- The walk through the nodes of a message. -/
def ofNodes (isLeaf : PartClass → Bool) (depth : Nat) : List Node → Walk
  | [] => empty
  | n :: rest => (ofNode isLeaf depth n).andThen (ofNodes isLeaf depth rest)

/-- The walk through a node. -/
def ofNode (isLeaf : PartClass → Bool) (depth : Nat) : Node → Walk
  | .choice kind name branches span =>
    visit isLeaf (.node (.choice kind name branches span)) depth
      (ofBranches isLeaf (depth - 1) branches)
  | n => visit isLeaf (.node n) depth empty

/-- The walk through the branches of a choice. -/
def ofBranches (isLeaf : PartClass → Bool) (depth : Nat) : List Branch → Walk
  | [] => empty
  | b :: rest => (ofBranch isLeaf depth b).andThen (ofBranches isLeaf depth rest)

/-- The walk through a branch. -/
def ofBranch (isLeaf : PartClass → Bool) (depth : Nat) : Branch → Walk
  | .mk key message span =>
    visit isLeaf (.branch (.mk key message span)) depth
      (visit isLeaf (.message message) (depth - 1) (ofNodes isLeaf (depth - 2) message))

end

/-- The walk through a message. -/
def ofMessage (isLeaf : PartClass → Bool) (depth : Nat) (m : Message) : Walk :=
  visit isLeaf (.message m) depth (ofNodes isLeaf (depth - 1) m)

/-- How deep a walk may go unless said otherwise: a level of nesting takes three, and there is one
message around all and one node inside. -/
def defaultDepth : Nat := 98

/-- Nothing behind a walk (`andThen`) leaves it as it is. -/
@[simp] theorem andThen_empty (a : Walk) : a.andThen empty = a := by
  cases a with
  | mk visited complete => cases complete <;> simp [andThen, empty]

end Walk

end Parlance
