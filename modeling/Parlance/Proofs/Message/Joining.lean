import Mathlib.Data.List.Chain
import Parlance.Proofs.Message.Grammar

/-!
# Neighbouring texts

The reader of messages adds nodes one by one, the latest first, and joins a text to a text before it
(`push`). The message of a derivation joins the texts afterwards (`joinTexts`). Both give the same
nodes (`reverse_foldl_push`), of which no two neighbours are texts (`separate_joinTexts`).
-/

namespace Parlance.Grammar

open Parlance.Message

/-- Whether a node is a run of text. -/
def isText : Node → Bool
  | .text _ _ => true
  | _ => false

/-- Whether no two neighbours among some nodes are texts. -/
def Separate (nodes : List Node) : Prop :=
  nodes.IsChain fun a b => (isText a && isText b) = false

/-- No nodes are separate (`Separate`). -/
private theorem separate_nil : Separate [] := .nil

/-- Nodes are separate (`Separate`) if the first two are not both texts and the rest is separate. -/
theorem separate_cons {n : Node} {rest : List Node} :
    Separate (n :: rest) ↔
      (∀ m ∈ rest.head?, (isText n && isText m) = false) ∧ Separate rest :=
  List.isChain_cons

/-- Nodes are separate (`Separate`) from behind as well. -/
private theorem separate_reverse {nodes : List Node} : Separate nodes.reverse ↔ Separate nodes := by
  simp only [Separate, List.isChain_reverse, Bool.and_comm]

/-- A node that is kept apart from what follows it, unless both are texts. -/
theorem apart_or_texts (n : Node) (rest : List Node) :
    (∀ m ∈ rest.head?, (isText n && isText m) = false) ∨
      ∃ value span after span' more, n = .text value span ∧ rest = .text after span' :: more := by
  cases n with
  | text value span =>
    cases rest with
    | nil => exact .inl (by simp)
    | cons m more =>
      cases m with
      | text after span' => exact .inr ⟨_, _, _, _, _, rfl, rfl⟩
      | _ => exact .inl (by simp [isText])
  | _ => exact .inl (by simp [isText])

/-! ## Joining texts afterwards -/

/-- A node that is not next to a text, or is none itself, is joined (`joinText`) to nothing. -/
theorem joinText_of_head {n : Node} {rest : List Node}
    (h : ∀ m ∈ rest.head?, (isText n && isText m) = false) : joinText n rest = n :: rest := by
  cases n with
  | text value span =>
    cases rest with
    | nil => rfl
    | cons m more =>
      cases m with
      | text after span' => exact absurd (h _ rfl) (by simp [isText])
      | _ => rfl
  | _ => rfl

/-- Joining a node to separate (`Separate`) ones keeps them separate. -/
private theorem separate_joinText {n : Node} {rest : List Node} (h : Separate rest) :
    Separate (joinText n rest) := by
  rcases apart_or_texts n rest with hn | ⟨value, span, after, span', more, rfl, rfl⟩
  · rw [joinText_of_head hn]
    exact separate_cons.2 ⟨hn, h⟩
  · -- the joined text has the neighbours of the second one
    obtain ⟨hhead, hmore⟩ := separate_cons.1 h
    exact separate_cons.2 ⟨hhead, hmore⟩

/-- Joining leaves no two texts next to each other (`Separate`). -/
theorem separate_joinTexts (nodes : List Node) : Separate (joinTexts nodes) := by
  induction nodes with
  | nil => exact separate_nil
  | cons n rest ih => exact separate_joinText ih

/-- Nodes of which no two neighbours are texts (`Separate`) stay as they are. -/
theorem joinTexts_of_separate {nodes : List Node} (h : Separate nodes) :
    joinTexts nodes = nodes := by
  induction nodes with
  | nil => rfl
  | cons n rest ih =>
    obtain ⟨hn, hrest⟩ := separate_cons.1 h
    rw [joinTexts, List.foldr_cons, ← joinTexts, ih hrest, joinText_of_head hn]

/-- Of three neighbours, it does not matter which two are joined (`joinText`) first. -/
private theorem joinText_joinText (value after : String) (span span' : Span) (rest : List Node) :
    joinText (.text value span) (joinText (.text after span') rest) =
      joinText (.text (value ++ after) ⟨span.start, span'.stop⟩) rest := by
  cases rest with
  | nil => rfl
  | cons m more =>
    cases m with
    | text last span'' => simp [joinText, String.append_assoc]
    | _ => rfl

/-! ## Joining texts one by one -/

/-- Adds a node to those read so far, the latest first. -/
def push (nodes : List Node) : Node → List Node
  | .text value span => appendText nodes value span
  | n => n :: nodes

/-- A node that is not next to a text, or is none itself, is added as it is (`push`). -/
theorem push_of_head {n : Node} {nodes : List Node}
    (h : ∀ m ∈ nodes.head?, (isText n && isText m) = false) : push nodes n = n :: nodes := by
  cases n with
  | text value span =>
    cases nodes with
    | nil => rfl
    | cons m more =>
      cases m with
      | text after span' => exact absurd (h _ rfl) (by simp [isText])
      | _ => rfl
  | _ => rfl

/-- Adding a node to separate (`Separate`) ones keeps them separate. -/
private theorem separate_push {n : Node} {nodes : List Node} (h : Separate nodes) :
    Separate (push nodes n) := by
  rcases apart_or_texts n nodes with hn | ⟨value, span, before, first, more, rfl, rfl⟩
  · rw [push_of_head hn]
    exact separate_cons.2 ⟨hn, h⟩
  · obtain ⟨hhead, hmore⟩ := separate_cons.1 h
    exact separate_cons.2 ⟨hhead, hmore⟩

/-- Nodes are joined from behind (`joinTexts`): first those after, then those before. -/
private theorem joinTexts_append (before after : List Node) :
    joinTexts (before ++ after) = before.foldr joinText (joinTexts after) := by
  rw [joinTexts, List.foldr_append, ← joinTexts]

/-- Whether a node is added at once (`push`) or joined later makes no difference. -/
private theorem joinTexts_push (nodes : List Node) (n : Node) (rest : List Node) :
    joinTexts ((push nodes n).reverse ++ rest) = joinTexts (nodes.reverse ++ n :: rest) := by
  rcases apart_or_texts n nodes with hn | ⟨value, span, before, first, more, rfl, rfl⟩
  · rw [push_of_head hn, List.reverse_cons, List.append_assoc, List.singleton_append]
  · have hj := joinText_joinText before value first span (joinTexts rest)
    simp only [push, appendText, List.reverse_cons, List.append_assoc, List.singleton_append,
      joinTexts_append]
    exact congrArg (List.foldr joinText · more.reverse) hj.symm

/-- Adding nodes one by one gives the nodes with their texts joined (`joinTexts`). -/
theorem reverse_foldl_push (nodes : List Node) :
    (nodes.foldl push []).reverse = joinTexts nodes := by
  -- the nodes that are there already need no joining among themselves
  have key : ∀ before : List Node, Separate before →
      (nodes.foldl push before).reverse = joinTexts (before.reverse ++ nodes) := by
    induction nodes with
    | nil =>
      intro before h
      rw [List.append_nil, joinTexts_of_separate (separate_reverse.2 h), List.foldl_nil]
    | cons n rest ih =>
      intro before h
      rw [List.foldl_cons, ih _ (separate_push h), joinTexts_push]
  exact key [] separate_nil

end Parlance.Grammar
