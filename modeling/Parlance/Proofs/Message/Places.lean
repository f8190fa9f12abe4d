import Parlance.Proofs.Message.Cutting
import Parlance.Proofs.Message.Refusing
import Parlance.Proofs.Message.Shape

/-!
# Places in the text

The tokens of a text stand in it one after the other (`inOrder_of_scan`). So wherever the reader is,
all places that it has noted lie behind one another and not beyond the last token (`Placed`,
`Placed.step`, `placed_of_steps`). In the end every span of a message is one, and lies in the text
(`allSpans_of_parse`), and every fault is at a place in the text or at its end, to which its
diagnostic points as well (`index_le_of_parse`).
-/

namespace Parlance.Grammar

open Parlance.Message Parlance.Token

/-! ## Spans at any depth -/

mutual

/-- Whether all spans of a node, at any depth, have a property. -/
def AllSpansNode (P : Span → Prop) : Node → Prop
  | .text _ span => P span
  | .reference _ span => P span
  | .choice _ _ branches span => P span ∧ AllSpansBranches P branches
  | .argument _ _ _ span => P span

/-- Whether all spans of some branches, at any depth, have a property. -/
def AllSpansBranches (P : Span → Prop) : List Branch → Prop
  | [] => True
  | .mk _ message span :: rest => P span ∧ AllSpans P message ∧ AllSpansBranches P rest

/-- Whether all spans of some nodes, at any depth, have a property. -/
def AllSpans (P : Span → Prop) : List Node → Prop
  | [] => True
  | n :: rest => AllSpansNode P n ∧ AllSpans P rest

end

section

variable {P Q : Span → Prop}

/-- All spans (`AllSpans`) of nodes are those of each node. -/
private theorem allSpans_iff {nodes : List Node} : AllSpans P nodes ↔
    ∀ n ∈ nodes, AllSpansNode P n := by
  induction nodes with
  | nil => simp [AllSpans]
  | cons n rest ih => rw [AllSpans, ih, List.forall_mem_cons]

/-- All spans of branches (`AllSpansBranches`) are those of each branch and of its message. -/
private theorem allSpansBranches_iff {branches : List Branch} :
    AllSpansBranches P branches ↔ ∀ b ∈ branches, P b.span ∧ AllSpans P b.message := by
  induction branches with
  | nil => simp [AllSpansBranches]
  | cons b rest ih =>
    cases b with
    | mk key message span =>
      rw [AllSpansBranches, ih, List.forall_mem_cons, and_assoc]
      rfl

/-- The order of nodes does not matter to their spans (`AllSpans`). -/
private theorem allSpans_reverse {nodes : List Node} : AllSpans P nodes.reverse ↔
    AllSpans P nodes := by
  simp only [allSpans_iff, List.mem_reverse]

/-- The order of branches does not matter to their spans. -/
private theorem allSpansBranches_reverse {branches : List Branch} :
    AllSpansBranches P branches.reverse ↔ AllSpansBranches P branches := by
  simp only [allSpansBranches_iff, List.mem_reverse]

mutual

/-- What follows from a property of spans holds of all spans of a node (`AllSpansNode`) that have
it. -/
theorem AllSpansNode.mono (h : ∀ span, P span → Q span) :
    ∀ n : Node, AllSpansNode P n → AllSpansNode Q n
  | .text _ _, hn => by
    rw [AllSpansNode] at hn ⊢
    exact h _ hn
  | .reference _ _, hn => by
    rw [AllSpansNode] at hn ⊢
    exact h _ hn
  | .choice _ _ branches _, hn => by
    rw [AllSpansNode] at hn ⊢
    exact ⟨h _ hn.1, AllSpansBranches.mono h branches hn.2⟩
  | .argument _ _ _ _, hn => by
    rw [AllSpansNode] at hn ⊢
    exact h _ hn

/-- What follows from a property of spans holds of all spans of branches (`AllSpansBranches`) that
have it. -/
theorem AllSpansBranches.mono (h : ∀ span, P span → Q span) :
    ∀ branches : List Branch, AllSpansBranches P branches → AllSpansBranches Q branches
  | [], _ => by
    rw [AllSpansBranches]
    trivial
  | .mk _ message _ :: rest, hb => by
    rw [AllSpansBranches] at hb ⊢
    exact ⟨h _ hb.1, AllSpans.mono h message hb.2.1, AllSpansBranches.mono h rest hb.2.2⟩

/-- What follows from a property of spans (`AllSpans`) holds of all spans of nodes that have it. -/
theorem AllSpans.mono (h : ∀ span, P span → Q span) :
    ∀ nodes : List Node, AllSpans P nodes → AllSpans Q nodes
  | [], _ => by
    rw [AllSpans]
    trivial
  | n :: rest, hn => by
    rw [AllSpans] at hn ⊢
    exact ⟨AllSpansNode.mono h n hn.1, AllSpans.mono h rest hn.2⟩

end

end

/-! ## Tokens in order -/

/-- Whether tokens stand one after the other from an offset on, up to another. -/
def InOrder : Nat → List Token → Nat → Prop
  | pos, [], stop => pos ≤ stop
  | pos, t :: rest, stop => pos ≤ t.start ∧ t.start < t.stop ∧ InOrder t.stop rest stop

/-- Tokens in order (`InOrder`) go forward. -/
theorem InOrder.le {pos stop : Nat} {tokens : List Token} (h : InOrder pos tokens stop) :
    pos ≤ stop := by
  induction tokens generalizing pos with
  | nil => exact h
  | cons t rest ih =>
    obtain ⟨hpos, hstart, hrest⟩ := h
    have hle := ih hrest
    omega

/-- Tokens in order (`InOrder`) are so in two parts. -/
theorem InOrder.split {pos stop : Nat} {before after : List Token}
    (h : InOrder pos (before ++ after) stop) :
    ∃ middle, InOrder pos before middle ∧ InOrder middle after stop := by
  induction before generalizing pos with
  | nil => exact ⟨pos, Nat.le_refl pos, h⟩
  | cons t before ih =>
    obtain ⟨hpos, hstart, hrest⟩ := h
    obtain ⟨middle, hbefore, hafter⟩ := ih hrest
    exact ⟨middle, ⟨hpos, hstart, hbefore⟩, hafter⟩

/-- The scanner makes tokens in order (`InOrder`). -/
theorem inOrder_of_scan {q : Quoting} {depth pos : Nat} {text : List Char} {tokens : List Token}
    (h : scan q 0 depth pos text = .ok tokens) : InOrder pos tokens (pos + text.length) := by
  induction tokens generalizing depth pos text with
  | nil => exact Nat.le_add_right pos text.length
  | cons t rest ih =>
    have hcut := cut_of_scan h
    have hpos := hcut.pos_le
    have hstart := hcut.start_lt
    have hstop := hcut.stop_le
    have hrest := ih hcut.scan_rest
    -- what is left after the token ends where the text does
    rw [List.length_drop, show t.stop + (text.length - (t.stop - pos)) = pos + text.length by omega]
      at hrest
    exact ⟨hpos, hstart, hrest⟩

/-- The tokens of a text are in order (`InOrder`) from its start to its end. -/
theorem inOrder_of_ofText {q : Quoting} {text : String} {tokens : List Token}
    (h : ofText q text = .ok tokens) : InOrder 0 tokens text.length := by
  have hscan := inOrder_of_scan h
  rwa [Nat.zero_add, String.length_toList] at hscan

/-! ## What has been noted -/

/-- Whether a span is one, and ends by an offset. -/
def EndsBy (stop : Nat) (span : Span) : Prop := span.start ≤ span.stop ∧ span.stop ≤ stop

/-- A span that ends (`EndsBy`) by some offset ends by every later one. -/
theorem EndsBy.mono {stop stop' : Nat} (hle : stop ≤ stop') (span : Span) (h : EndsBy stop span) :
    EndsBy stop' span :=
  ⟨h.1, h.2.trans hle⟩

/-- A span that ends (`EndsBy`) by some offset is one that can be made of its two ends. -/
theorem EndsBy.between {stop : Nat} {span : Span} (h : EndsBy stop span) :
    Span.between span.start span.stop = .ok span := by
  have hstart : ¬ (span.start : Int) < 0 := by omega
  have hstop : ¬ (span.stop : Int) < span.start := by exact_mod_cast Nat.not_lt.2 h.1
  simp [Span.between, hstart, hstop]

/-- Whether all places of a choice that is being read lie before an offset. -/
def ChoicePlaced (stop : Nat) (c : OpenChoice) : Prop :=
  c.head.start ≤ stop ∧ AllSpansBranches (EndsBy stop) c.branches

/-- Whether all places of the innermost construct lie before an offset. -/
def StagePlaced (stop : Nat) : Stage → Prop
  | .nodes => True
  | .opened start => start ≤ stop
  | .named head => head.start ≤ stop
  | .typed head => head.start ≤ stop
  | .chosen head _ => head.start ≤ stop
  | .branches choice => ChoicePlaced stop choice
  | .exactKey choice keyStart => ChoicePlaced stop choice ∧ keyStart ≤ stop
  | .keyed choice _ keyStart => ChoicePlaced stop choice ∧ keyStart ≤ stop
  | .argument head _ => head.start ≤ stop
  | .format head _ => head.start ≤ stop
  | .formatted head _ _ => head.start ≤ stop

/-- Whether all places of a branch that stands open lie before an offset. -/
structure OpenPlaced (stop : Nat) (b : OpenBranch) : Prop where
  siblings : AllSpans (EndsBy stop) b.siblings
  choice : ChoicePlaced stop b.choice
  keyStart : b.keyStart ≤ stop

/-- Whether all places that the reader has noted lie before an offset, and all its spans are some.
-/
structure Placed (stop : Nat) (s : State) : Prop where
  nodes : AllSpans (EndsBy stop) s.nodes
  stage : StagePlaced stop s.stage
  outer : ∀ b ∈ s.outer, OpenPlaced stop b

section

variable {stop stop' : Nat}

/-- An open choice (`OpenChoice`) that lies before some offset lies before every later one. -/
theorem ChoicePlaced.mono {c : OpenChoice} (h : ChoicePlaced stop c) (hle : stop ≤ stop') :
    ChoicePlaced stop' c :=
  ⟨h.1.trans hle, AllSpansBranches.mono (EndsBy.mono hle) _ h.2⟩

/-- A stage (`Stage`) that lies before some offset lies before every later one. -/
theorem StagePlaced.mono {stage : Stage} (h : StagePlaced stop stage) (hle : stop ≤ stop') :
    StagePlaced stop' stage := by
  cases stage with
  | nodes => trivial
  | branches choice => exact ChoicePlaced.mono h hle
  | exactKey choice keyStart | keyed choice key keyStart => exact ⟨h.1.mono hle, h.2.trans hle⟩
  | _ => exact Nat.le_trans h hle

/-- An open branch (`OpenBranch`) that lies before some offset lies before every later one. -/
theorem OpenPlaced.mono {b : OpenBranch} (h : OpenPlaced stop b) (hle : stop ≤ stop') :
    OpenPlaced stop' b :=
  ⟨h.siblings.mono (EndsBy.mono hle), h.choice.mono hle, h.keyStart.trans hle⟩

/-- A state (`State`) that lies before some offset lies before every later one. -/
theorem Placed.mono {s : State} (h : Placed stop s) (hle : stop ≤ stop') : Placed stop' s :=
  ⟨h.nodes.mono (EndsBy.mono hle), h.stage.mono hle, fun b hb => (h.outer b hb).mono hle⟩

/-- At the start nothing has been placed (`Placed`). -/
private theorem placed_start : Placed 0 State.start :=
  ⟨by simp [State.start, AllSpans], trivial, by simp [State.start]⟩

/-- A node that ends last keeps the nodes in place (`AllSpans`), also where its text joins the one
before. -/
private theorem allSpans_push {nodes : List Node} {n : Node} (hnodes : AllSpans (EndsBy stop) nodes)
    (hn : AllSpansNode (EndsBy stop) n) (hlast : n.span.stop = stop) :
    AllSpans (EndsBy stop) (push nodes n) := by
  rcases apart_or_texts n nodes with hapart | ⟨value, span, before, first, rest, rfl, rfl⟩
  · rw [push_of_head hapart, AllSpans]
    exact ⟨hn, hnodes⟩
  · rw [AllSpans, AllSpansNode] at hnodes
    obtain ⟨hfirst, hrest⟩ := hnodes
    change AllSpans (EndsBy stop) (.text (before ++ value) ⟨first.start, span.stop⟩ :: rest)
    rw [AllSpans, AllSpansNode]
    obtain rfl : span.stop = stop := hlast
    exact ⟨⟨hfirst.1.trans hfirst.2, Nat.le_refl _⟩, hrest⟩

/-- A reference (`referenceNode`) has its span also where it is kept as text. -/
private theorem allSpansNode_referenceNode {span : Span} (known : Option (List String))
    (source : List Char) (name : String) (h : EndsBy stop span) :
    AllSpansNode (EndsBy stop) (referenceNode known source name span) ∧
      (referenceNode known source name span).span.stop = span.stop := by
  rcases referenceNode_cases known source name span with he | he <;>
    rw [he, AllSpansNode] <;> exact ⟨h, rfl⟩

end

section

variable {known : Option (List String)} {source : List Char} {s s' : State} {t : Token}

/-- A token keeps everything in place (`Placed`) that lies before its end. -/
theorem Placed.step (h : Placed t.stop s) (ht : t.start ≤ t.stop)
    (hstep : Step known source s t s') : Placed t.stop s' := by
  obtain ⟨hnodes, hstage, houter⟩ := h
  -- the new spans end with the token, and start at a place that has been noted
  cases hstep with
  | text hk =>
    have hn : AllSpansNode (EndsBy t.stop) (.text t.value ⟨t.start, t.stop⟩) := by
      rw [AllSpansNode]
      exact ⟨ht, Nat.le_refl _⟩
    exact ⟨allSpans_push hnodes hn rfl, trivial, houter⟩
  | brace hk => exact ⟨hnodes, ht, houter⟩
  | endBranch hk =>
    obtain ⟨hb, houter⟩ := List.forall_mem_cons.1 houter
    refine ⟨hb.siblings, ⟨hb.choice.1, ?_⟩, houter⟩
    rw [AllSpansBranches]
    exact ⟨⟨hb.keyStart, Nat.le_refl _⟩, allSpans_reverse.2 hnodes, hb.choice.2⟩
  | name hk => exact ⟨hnodes, hstage, houter⟩
  | @reference nodes head outer _ hk =>
    have hspan : EndsBy t.stop ⟨head.start, t.stop⟩ := ⟨hstage, Nat.le_refl _⟩
    obtain ⟨hn, hlast⟩ := allSpansNode_referenceNode known source head.name hspan
    exact ⟨allSpans_push hnodes hn hlast, trivial, houter⟩
  | nameComma hk | choiceType kind hk | argumentType kind hk | formatComma hk | format hk =>
    exact ⟨hnodes, hstage, houter⟩
  | choiceComma hk => exact ⟨hnodes, ⟨hstage, by rw [AllSpansBranches]; trivial⟩, houter⟩
  | endChoice hk hother =>
    refine ⟨?_, trivial, houter⟩
    rw [AllSpans, AllSpansNode]
    exact ⟨⟨⟨hstage.1, Nat.le_refl _⟩, allSpansBranches_reverse.2 hstage.2⟩, hnodes⟩
  | equals hk hkind => exact ⟨hnodes, ⟨hstage, ht⟩, houter⟩
  | wordKey hk hword hfresh => exact ⟨hnodes, ⟨hstage, ht⟩, houter⟩
  | numberKey hk hdigits hfresh => exact ⟨hnodes, hstage, houter⟩
  | openBranch hk =>
    refine ⟨by rw [AllSpans]; trivial, trivial, List.forall_mem_cons.2 ⟨?_, houter⟩⟩
    exact ⟨hnodes, hstage.1, hstage.2⟩
  | endArgument hk | endFormat hk =>
    refine ⟨?_, trivial, houter⟩
    rw [AllSpans, AllSpansNode]
    exact ⟨⟨hstage, Nat.le_refl _⟩, hnodes⟩

end

/-! ## Whole texts -/

section

variable {options : ReadingOptions} {source : List Char}

/-- Where the reader is after some tokens, everything lies before the end (`Placed`) of the last
one. -/
theorem placed_of_steps {s s' : State} {tokens : List Token} {pos stop : Nat}
    (h : Placed pos s) (htokens : InOrder pos tokens stop)
    (hsteps : steps options source s tokens = .ok s') : Placed stop s' := by
  induction tokens generalizing s pos with
  | nil =>
    cases hsteps
    exact h.mono htokens
  | cons t rest ih =>
    obtain ⟨s₁, hstep, hrest⟩ := exists_of_steps_cons hsteps
    obtain ⟨hpos, hstart, htokens⟩ := htokens
    have hbefore : Placed t.stop s := h.mono (by omega)
    exact ih (hbefore.step (Nat.le_of_lt hstart) (step_of_eq_ok hstep).2) htokens hrest

/-- Every span (`AllSpans`) of a message that is read is one, and lies in the text. -/
theorem allSpans_of_parse {text : String} {m : Message} (h : parse options text = .ok m) :
    AllSpans (EndsBy text.length) m := by
  rw [parse] at h
  cases htokens : ofText options.quoting text with
  | error f => simp [htokens] at h
  | ok tokens =>
    simp only [htokens, ofTokens] at h
    obtain ⟨s, hsteps, hfinish⟩ := bind_eq_ok_iff.1 h
    obtain ⟨-, -, rfl⟩ := finish_eq_ok hfinish
    exact allSpans_reverse.2
      (placed_of_steps placed_start (inOrder_of_ofText htokens) hsteps).nodes

/-- The diagnostic of what is refused (`Refusal`) points to where the fault is. -/
theorem Refusal.located_eq {limit : Int} {s : State} {t : Token} {f : MessageFault}
    (h : Refusal limit s t (.fault f)) : f.located = f.index := by
  cases h <;> rfl

/-- What is refused (`Refusal`) is a place that has been noted, or the token itself. -/
theorem Refusal.index_le {limit : Int} {s : State} {t : Token} {f : MessageFault}
    (h : Refusal limit s t (.fault f)) (hs : Placed t.start s) : f.index ≤ t.start := by
  have hstage := hs.stage
  cases h with
  | tooDeep | unexpected | unknownType | unknownCategory | duplicateWord => exact Nat.le_refl _
  | duplicateNumber he =>
    rw [he] at hstage
    exact hstage.2
  | missingOther he =>
    rw [he] at hstage
    exact hstage.1

/-- Every fault is at a place in the text, or at its end, and its diagnostic points there. -/
theorem index_le_of_parse {text : String} {f : MessageFault}
    (h : parse options text = .error (.fault f)) :
    f.located = f.index ∧ f.index ≤ text.length := by
  rcases parse_eq_error_cases h with
    ⟨f', htokens, hf⟩ | ⟨before, t, after, s, htokens, hbefore, hstep⟩ | ⟨s, hfinish⟩
  · obtain ⟨hlocated, hlt, -⟩ := index_lt_of_scan htokens
    rw [Nat.zero_add, String.length_toList] at hlt
    cases hf
    exact ⟨hlocated, hlt.le⟩
  · obtain ⟨middle, hin, hpos, hstart, hafter⟩ := (inOrder_of_ofText htokens).split
    -- What the reader has noted lies before the token that it refuses.
    have hplaced := (placed_of_steps placed_start hin hbefore).mono hpos
    have hrefusal := refusal_of_eq_error hstep
    have hindex := hrefusal.index_le hplaced
    have hstop := hafter.le
    exact ⟨hrefusal.located_eq, by omega⟩
  · rcases finish_eq_error hfinish with he | ⟨expected, he⟩ <;> cases he <;>
      exact ⟨rfl, Nat.le_refl _⟩

end

end Parlance.Grammar
