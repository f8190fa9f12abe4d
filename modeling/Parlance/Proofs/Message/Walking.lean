import Parlance.Message.Usage
import Parlance.Proofs.Message.Shape

/-!
# Walks reach the end of a message

A walk takes three levels of depth for each level of nesting, and one each for the message around
all and the node inside. So the depth that walks are allowed is enough for every message that is
nested no deeper than messages are read (`complete_ofMessage`).
-/

namespace Parlance.Grammar

open Parlance.Message

/-! ## Walks come to their end -/

/-- Two walks that come to their end do so one after the other (`Walk.andThen`). -/
private theorem complete_andThen {a b : Walk} (ha : a.complete = true) (hb : b.complete = true) :
    (a.andThen b).complete = true := by
  rw [Walk.andThen, if_pos ha]
  exact hb

/-- A visit (`visit`) comes to its end if there is a level for it and what is inside does. -/
private theorem complete_visit {isLeaf : PartClass → Bool} {part : Part} {depth : Nat}
    {inside : Walk} (hdepth : 0 < depth) (h : inside.complete = true) :
    (Walk.visit isLeaf part depth inside).complete = true := by
  rw [Walk.visit]
  split
  · rfl
  · rw [if_neg (by omega)]
    exact h

mutual

/-- A walk through nodes (`ofNodes`) comes to its end if there is depth for their nesting. -/
theorem complete_ofNodes (isLeaf : PartClass → Bool) : ∀ (nodes : List Node) (depth : Nat),
    3 * nestingOfNodes nodes < depth → (Walk.ofNodes isLeaf depth nodes).complete = true
  | [], _, _ => by rw [Walk.ofNodes]; rfl
  | n :: rest, depth, h => by
    rw [nestingOfNodes_cons] at h
    rw [Walk.ofNodes]
    exact complete_andThen (complete_ofNode isLeaf n depth (by omega))
      (complete_ofNodes isLeaf rest depth (by omega))

/-- A walk through a node (`ofNode`) comes to its end if there is depth for its nesting. -/
theorem complete_ofNode (isLeaf : PartClass → Bool) : ∀ (n : Node) (depth : Nat),
    3 * nestingOfNode n < depth → (Walk.ofNode isLeaf depth n).complete = true
  | .text _ _, _, h => by
    rw [Walk.ofNode]
    · exact complete_visit (by omega) rfl
    · simp
  | .reference _ _, _, h => by
    rw [Walk.ofNode]
    · exact complete_visit (by omega) rfl
    · simp
  | .argument _ _ _ _, _, h => by
    rw [Walk.ofNode]
    · exact complete_visit (by omega) rfl
    · simp
  | .choice _ _ branches _, depth, h => by
    rw [nestingOfNode] at h
    rw [Walk.ofNode]
    -- A choice, a branch and its message are three levels, which is where the factor comes from.
    exact complete_visit (by omega) (complete_ofBranches isLeaf branches (depth - 1) (by omega))

/-- A walk through branches (`ofBranches`) comes to its end if there is depth for their nesting. -/
theorem complete_ofBranches (isLeaf : PartClass → Bool) : ∀ (branches : List Branch)
    (depth : Nat), 3 * nestingOfBranches branches ≤ depth →
    (Walk.ofBranches isLeaf depth branches).complete = true
  | [], _, _ => by rw [Walk.ofBranches]; rfl
  | .mk key message span :: rest, depth, h => by
    rw [nestingOfBranches_cons] at h
    rw [Walk.ofBranches, Walk.ofBranch]
    have hnodes := complete_ofNodes isLeaf message (depth - 2) (by omega)
    exact complete_andThen (complete_visit (by omega) (complete_visit (by omega) hnodes))
      (complete_ofBranches isLeaf rest depth (by omega))

end

/-- A walk of the usual depth comes to its end, if the message (`ofMessage`) is nested no deeper
than messages are. -/
theorem complete_ofMessage (isLeaf : PartClass → Bool) {m : Message}
    (h : nestingOfNodes m ≤ ReadingOptions.defaultLimit.toNat) :
    (Walk.ofMessage isLeaf Walk.defaultDepth m).complete = true := by
  -- three levels for each of 32 branches, one for the message and one for the node inside: 98
  have hlimit : ReadingOptions.defaultLimit.toNat = 32 := rfl
  have hdepth : Walk.defaultDepth = 98 := rfl
  have hnodes := complete_ofNodes isLeaf m (Walk.defaultDepth - 1) (by omega)
  exact complete_visit (by omega) hnodes

/-- The uses in a message are collected (`collect`) to the end, if it is nested no deeper than
messages are. -/
theorem complete_collect (usages : Usages) {m : Message}
    (h : nestingOfNodes m ≤ ReadingOptions.defaultLimit.toNat) :
    (Usages.collect usages m).2 = true :=
  complete_ofMessage Usages.isLeaf h

end Parlance.Grammar
