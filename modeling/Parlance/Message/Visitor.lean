import Parlance.Depth
import Parlance.Message.Traversal

/-!
# Visitors

A visitor goes through a part of a message, a part before what it holds. It has a guard, which is
entered to go into a part and left when that is done, also where a part further inside was refused.
How a visitor deals with the parts of a class is looked up when it meets the first of them, and
remembered for all others.

Visits are calls inside of calls, and there are only so many of these. How many a visit takes is up
to the visitor (`CallCosts`): its own and those of the guard, which a limit on the depth does not
count.
-/

namespace Parlance

/-- One who goes through messages: the guard of the depth, the classes that were met, with `true`
for a leaf, and the parts that visits were begun to. -/
structure Visitor where
  guard : DepthGuard
  known : List (PartClass × Bool)
  visited : List Part
deriving Repr

/-- How many calls a visitor makes inside of each other. -/
structure CallCosts where
  /-- From the visit to a part to the visits to what it holds. -/
  level : Nat
  /-- For a visit to a leaf. -/
  leaf : Nat
  /-- For a visit that enters the guard. -/
  enter : Nat
  /-- For a visit that the guard refuses, with the words for it. -/
  refuse : Nat
  level_le_enter : level ≤ enter
deriving Repr

namespace CallCosts

/-- The calls of a visitor that adds none of its own: a visit and its method, and then those of the
guard, which asks whether its limit is reached, or those that put a refusal into words. -/
def plain : CallCosts := ⟨2, 2, 5, 8, by decide⟩

/-- The most that a visit takes, however it ends. -/
def most (costs : CallCosts) : Nat := max costs.leaf (max costs.enter costs.refuse)

end CallCosts

/-- Why a visit is not done. -/
inductive VisitFault where
  /-- The guard has refused to go deeper than its limit. -/
  | tooDeep (limit : Int)
  /-- No more calls can be made inside of each other. -/
  | outOfCalls
deriving DecidableEq, Repr

/-- What a visitor does while so many calls can be made: it comes out changed, with a result or a
fault. -/
abbrev Visiting (α : Type) := Nat → Visitor → Visitor × Except VisitFault α

namespace Visiting

variable {α β : Type}

/-- Nothing is left to do. -/
def done : Visiting Unit := fun _ v => (v, .ok ())

/-- One thing and then another, which is not done if the first was not. -/
def andThen (first : Visiting α) (second : Visiting β) : Visiting β := fun calls v =>
  match first calls v with
  | (v, .ok _) => second calls v
  | (v, .error e) => (v, .error e)

/-- Something done one level deeper. A guard that refuses to be entered, or cannot be for want of
calls, is not left. -/
def guarded (costs : CallCosts) (inside : Visiting α) : Visiting α := fun calls v =>
  match v.guard.enter with
  | .error e => (v, .error (if calls < costs.refuse then .outOfCalls else .tooDeep e.limit))
  | .ok g =>
    if calls < costs.enter then (v, .error .outOfCalls)
    else
      let (v, result) := inside (calls - costs.level) { v with guard := g }
      ({ v with guard := v.guard.leave }, result)

end Visiting

namespace Visitor

/-- A visitor that has met nothing yet. -/
def ofLimit (requested : Int) : Visitor := ⟨DepthGuard.ofLimit requested, [], []⟩

section

variable (isLeaf : PartClass → Bool) (costs : CallCosts)

/-- Whether the parts of a class are leaves, as the visitor remembers or else finds out. -/
def dispatch (v : Visitor) (c : PartClass) : Bool × Visitor :=
  match v.known.lookup c with
  | some leaf => (leaf, v)
  | none => (isLeaf c, { v with known := (c, isLeaf c) :: v.known })

/-- A visit to a part, and what is done inside of it unless it is a leaf; it gives the part. -/
def visit (part : Part) (inside : Visiting Unit) : Visiting Part := fun calls v =>
  let (leaf, v) := dispatch isLeaf { v with visited := v.visited ++ [part] } part.classOf
  if leaf then (v, if calls < costs.leaf then .error .outOfCalls else .ok part)
  else ((Visiting.guarded costs inside).andThen fun _ v => (v, .ok part)) calls v

mutual

/-- Visits to some nodes. -/
def visitNodes : List Node → Visiting Unit
  | [] => Visiting.done
  | n :: rest => (visitNode n).andThen (visitNodes rest)

/-- A visit to a node. -/
def visitNode : Node → Visiting Part
  | .choice kind name branches span =>
    visit isLeaf costs (.node (.choice kind name branches span)) (visitBranches branches)
  | n => visit isLeaf costs (.node n) Visiting.done

/-- Visits to the branches of a choice. -/
def visitBranches : List Branch → Visiting Unit
  | [] => Visiting.done
  | b :: rest => (visitBranch b).andThen (visitBranches rest)

/-- A visit to a branch. -/
def visitBranch : Branch → Visiting Part
  | .mk key message span =>
    visit isLeaf costs (.branch (.mk key message span))
      ((visit isLeaf costs (.message message) (visitNodes message)).andThen Visiting.done)

end

/-- A visit to a message. -/
def visitMessage (m : Message) : Visiting Part :=
  visit isLeaf costs (.message m) (visitNodes isLeaf costs m)

/-- A visit to a part. -/
def visitPart : Part → Visiting Part
  | .message m => visitMessage isLeaf costs m
  | .branch b => visitBranch isLeaf costs b
  | .node n => visitNode isLeaf costs n

/-- The visitor after visits to some parts, one after the other and each with so many calls left,
however they end. -/
def afterVisits (v : Visitor) (earlier : List (Nat × Part)) : Visitor :=
  earlier.foldl (fun v e => (visitPart isLeaf costs e.2 e.1 v).1) v

end

end Visitor

end Parlance
