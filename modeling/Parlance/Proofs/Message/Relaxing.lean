import Parlance.Proofs.Message.Occurrence
import Parlance.Proofs.Message.Shape

/-!
# Reading with known names

When only some names are known, a reference to any other name is kept as the text it was written
as. `relax` does this to a message that has been read already: it replaces references at every
depth, and joins texts that have become neighbours. The reader does it while it reads, and it makes
no difference: from relaxed states it takes the same steps and meets the same faults (`step_relax`,
`steps_relax`). So a text is refused alike whatever names are known, and else its message is the
relaxed one (`parse_known_eq_map_relax`).
-/

namespace Parlance.Grammar

open Parlance.Message Parlance.Number

variable (known : List String) (source : List Char)

mutual

/-- A node when only some names are known: a reference to any other name is the text it was written
as. -/
def relaxNode : Node → Node
  | .text value span => .text value span
  | .reference name span =>
    if known.contains name then .reference name span else .text (slice source span) span
  | .choice kind name branches span => .choice kind name (relaxBranches branches) span
  | .argument name kind skeleton span => .argument name kind skeleton span

/-- The branches of a choice when only some names are known. -/
def relaxBranches : List Branch → List Branch
  | [] => []
  | .mk key message span :: rest => .mk key (relax message) span :: relaxBranches rest

/-- A message when only some names are known: each of its nodes relaxed, and neighbouring texts
joined. -/
def relax : List Node → List Node
  | [] => []
  | n :: rest => joinText (relaxNode n) (relax rest)

end

/-- A branch when only some names are known. -/
def relaxBranch (b : Branch) : Branch := .mk b.key (relax known source b.message) b.span

variable {known source}

/-- No nodes stay no nodes. -/
@[simp] theorem relax_nil : relax known source [] = [] := by rw [relax]

/-- A node is relaxed (`relax`) and joined to the relaxed rest. -/
@[simp] theorem relax_cons (n : Node) (rest : List Node) :
    relax known source (n :: rest) =
      joinText (relaxNode known source n) (relax known source rest) := by
  rw [relax]

/-- No branches stay no branches. -/
@[simp] theorem relaxBranches_nil : relaxBranches known source [] = [] := by rw [relaxBranches]

/-- Branches are relaxed (`relaxBranches`) one by one. -/
@[simp] theorem relaxBranches_cons (b : Branch) (rest : List Branch) :
    relaxBranches known source (b :: rest) =
      relaxBranch known source b :: relaxBranches known source rest := by
  cases b with
  | mk key message span => rw [relaxBranches, relaxBranch, Branch.key, Branch.message, Branch.span]

/-- The nodes of a message are relaxed (`relax`) one by one and joined afterwards. -/
private theorem relax_eq_joinTexts (nodes : List Node) :
    relax known source nodes = joinTexts (nodes.map (relaxNode known source)) := by
  induction nodes with
  | nil => simp [joinTexts]
  | cons n rest ih =>
    rw [relax_cons, ih]
    simp [joinTexts]

/-- `relaxBranches` is a `map`. -/
private theorem relaxBranches_eq_map (branches : List Branch) :
    relaxBranches known source branches = branches.map (relaxBranch known source) := by
  induction branches with
  | nil => simp
  | cons b rest ih => simp [ih]

/-! ## Names in a relaxed message -/

/-- Joining (`joinText`) a text to the next one changes no occurrence, for texts use no name. -/
private theorem occurs_joinText_iff {n : Node} {rest : List Node} {name : String} {use : Use} :
    Occurs (joinText n rest) name use ↔ Occurs (n :: rest) name use := by
  have htext : ∀ (value : String) (span : Span), ¬ Occurs [.text value span] name use := by
    intro value span h
    rw [occurs_single_iff (by simp)] at h
    cases h
  rcases apart_or_texts n rest with hn | ⟨value, span, after, span', more, rfl, rfl⟩
  · rw [joinText_of_head hn]
  · rw [joinText, @occurs_cons_iff _ more, occurs_cons_iff (n := .text value span),
      @occurs_cons_iff _ more]
    simp only [htext, false_or]

mutual

/-- A name occurs (`Occurs`) in a relaxed message where it does in the message, unless it is written
out there and is not known. -/
theorem occurs_relax_iff (name : String) (use : Use) : ∀ m : Message,
    Occurs (relax known source m) name use ↔ Occurs m name use ∧ (use = .plain → name ∈ known)
  | [] => by
    rw [relax_nil]
    simp [not_occurs_nil]
  | n :: rest => by
    rw [relax_cons, occurs_joinText_iff, occurs_cons_iff, occurs_relaxNode_iff name use n,
      occurs_relax_iff name use rest, @occurs_cons_iff n rest, or_and_right]

/-- A name occurs in a relaxed node (`relaxNode`) where it does in the node, unless it is written
out there and is not known. -/
theorem occurs_relaxNode_iff (name : String) (use : Use) : ∀ n : Node,
    Occurs [relaxNode known source n] name use ↔
      Occurs [n] name use ∧ (use = .plain → name ∈ known)
  | .text _ _ => by
    rw [relaxNode, occurs_single_iff (by simp)]
    simp [Node.usage?]
  | .reference own span => by
    rw [relaxNode, occurs_single_iff (n := .reference own span) (by simp)]
    by_cases hown : own ∈ known
    · rw [if_pos (List.contains_iff_mem.2 hown), occurs_single_iff (by simp)]
      simp only [Node.usage?, Option.some.injEq, Prod.mk.injEq]
      constructor
      · rintro ⟨rfl, rfl⟩
        exact ⟨⟨rfl, rfl⟩, fun _ => hown⟩
      · exact And.left
    · rw [if_neg (fun h => hown (List.contains_iff_mem.1 h)), occurs_single_iff (by simp)]
      simp only [Node.usage?, Option.some.injEq, Prod.mk.injEq, reduceCtorEq, false_iff]
      rintro ⟨⟨rfl, rfl⟩, hknown⟩
      exact hown (hknown rfl)
  | .argument own kind skeleton span => by
    rw [relaxNode, occurs_single_iff (by simp)]
    -- an argument gives its name a role, and so does not write it out
    simp only [Node.usage?, Option.some.injEq, Prod.mk.injEq]
    constructor
    · rintro ⟨rfl, rfl⟩
      exact ⟨⟨rfl, rfl⟩, nofun⟩
    · exact And.left
  | .choice kind own branches span => by
    rw [relaxNode, occurs_choice_iff, occurs_choice_iff,
      occurs_relaxBranches_iff name use branches, or_and_right]
    refine or_congr_left ?_
    have hrole : (Node.choice kind own branches span).usage? = some (name, use) →
        use ≠ .plain := by
      rintro h rfl
      cases kind <;> cases h
    have hsame : (Node.choice kind own (relaxBranches known source branches) span).usage? =
        (Node.choice kind own branches span).usage? := by
      cases kind <;> rfl
    rw [hsame]
    exact ⟨fun h => ⟨h, fun hplain => absurd hplain (hrole h)⟩, And.left⟩

/-- A name occurs in relaxed branches (`relaxBranches`) where it does in the branches, unless it is
written out there and is not known. -/
theorem occurs_relaxBranches_iff (name : String) (use : Use) : ∀ branches : List Branch,
    (∃ b ∈ relaxBranches known source branches, Occurs b.message name use) ↔
      (∃ b ∈ branches, Occurs b.message name use) ∧ (use = .plain → name ∈ known)
  | [] => by simp
  | .mk key message span :: rest => by
    have hfirst : (relaxBranch known source (.mk key message span)).message =
        relax known source message := rfl
    rw [relaxBranches_cons, List.exists_mem_cons_iff, List.exists_mem_cons_iff, hfirst,
      occurs_relax_iff name use message, occurs_relaxBranches_iff name use rest, or_and_right]
    rfl

end

/-! ## Messages of known names -/

variable {texts : String → Prop}

mutual

/-- A well-formed message all of whose references are to known names is relaxed (`relax`) already.
-/
theorem relax_of_known : ∀ m : Message, WellFormedNodes texts m → Separate m →
    (∀ name, Occurs m name .plain → name ∈ known) → relax known source m = m
  | [], _, _, _ => by simp
  | n :: rest, hwell, hseparate, hknown => by
    obtain ⟨hn, hrest⟩ := (wellFormedNodes_cons _ _).1 hwell
    obtain ⟨hhead, htail⟩ := separate_cons.1 hseparate
    have hnode := relaxNode_of_known n hn fun name h => hknown name (occurs_cons_iff.2 (.inl h))
    have hmore := relax_of_known rest hrest htail fun name h =>
      hknown name (occurs_cons_iff.2 (.inr h))
    rw [relax_cons, hnode, hmore]
    exact joinText_of_head hhead

/-- A well-formed node all of whose references are to known names is relaxed already (`relaxNode`).
-/
theorem relaxNode_of_known : ∀ n : Node, WellFormedNode texts n →
    (∀ name, Occurs [n] name .plain → name ∈ known) → relaxNode known source n = n
  | .text _ _, _, _ => by rw [relaxNode]
  | .argument _ _ _ _, _, _ => by rw [relaxNode]
  | .reference name span, _, hknown => by
    have hmem := hknown name ((occurs_single_iff (by simp)).2 rfl)
    rw [relaxNode, if_pos (List.contains_iff_mem.2 hmem)]
  | .choice kind name branches span, hwell, hknown => by
    rw [WellFormedNode] at hwell
    rw [relaxNode, relaxBranches_of_known kind branches hwell.2.1 fun b hb name h =>
      hknown name (occurs_choice_iff.2 (.inr ⟨b, hb, h⟩))]

/-- Well-formed branches all of whose references are to known names are relaxed already
(`relaxBranches`). -/
theorem relaxBranches_of_known (kind : ChoiceKind) : ∀ branches : List Branch,
    WellFormedBranches texts kind branches →
    (∀ b ∈ branches, ∀ name, Occurs b.message name .plain → name ∈ known) →
    relaxBranches known source branches = branches
  | [], _, _ => by simp
  | .mk key message span :: rest, hwell, hknown => by
    obtain ⟨-, ⟨hnodes, hseparate⟩, hrest⟩ := (wellFormedBranches_cons ..).1 hwell
    obtain ⟨hfirst, hmore⟩ := List.forall_mem_cons.1 hknown
    rw [relaxBranches_cons, relaxBranches_of_known kind rest hrest hmore, relaxBranch,
      Branch.message, relax_of_known message hnodes hseparate hfirst]
    rfl

end

/-! ## Relaxed states of the reader -/

variable (known source)

/-- The nodes read so far, the latest first, as they are read when only some names are known. -/
def relaxRead (nodes : List Node) : List Node :=
  nodes.foldr (fun n before => push before (relaxNode known source n)) []

/-- A choice that is being read, with the messages of its branches relaxed. -/
def relaxChoice (c : OpenChoice) : OpenChoice :=
  { c with branches := c.branches.map (relaxBranch known source) }

/-- A branch that stands open, with all that has been read around it relaxed. -/
def relaxOpen (b : OpenBranch) : OpenBranch :=
  { b with
    siblings := relaxRead known source b.siblings
    choice := relaxChoice known source b.choice }

/-- What has been read of the innermost construct, with the messages of its branches relaxed. -/
def relaxStage : Stage → Stage
  | .branches choice => .branches (relaxChoice known source choice)
  | .exactKey choice keyStart => .exactKey (relaxChoice known source choice) keyStart
  | .keyed choice key keyStart => .keyed (relaxChoice known source choice) key keyStart
  | stage => stage

/-- A state with all nodes in it relaxed. -/
def relaxState (s : State) : State :=
  ⟨relaxRead known source s.nodes, relaxStage known source s.stage,
    s.outer.map (relaxOpen known source)⟩

variable {known source}

/-- Of three neighbours, it does not matter whether the last two are joined before (`push`). -/
private theorem push_push_text (nodes : List Node) (before value : String) (first span : Span) :
    push (push nodes (.text before first)) (.text value span) =
      push nodes (.text (before ++ value) ⟨first.start, span.stop⟩) := by
  cases nodes with
  | nil => rfl
  | cons n rest =>
    cases n with
    | text start span' => simp [push, appendText, String.append_assoc]
    | _ => rfl

variable (known source) in
/-- A node may be relaxed (`relaxNode`) before or after it is added to those read so far. -/
theorem relaxRead_push (nodes : List Node) (n : Node) :
    relaxRead known source (push nodes n) =
      push (relaxRead known source nodes) (relaxNode known source n) := by
  rcases apart_or_texts n nodes with hn | ⟨value, span, before, first, rest, rfl, rfl⟩
  · rw [push_of_head hn]
    rfl
  · -- texts stay as they are, so that only the order of joining differs
    simp only [relaxRead, push, appendText, List.foldr_cons, relaxNode]
    exact (push_push_text _ before value first span).symm

/-- The nodes of a message that has been read are relaxed (`relaxRead`) as the message is. -/
theorem reverse_relaxRead (nodes : List Node) :
    (relaxRead known source nodes).reverse = relax known source nodes.reverse := by
  rw [relax_eq_joinTexts, ← reverse_foldl_push, List.foldl_map, List.foldl_reverse]
  rfl

/-- A relaxed branch (`relaxBranch`) keeps its key. -/
@[simp] theorem isOther_relaxBranch (b : Branch) :
    (relaxBranch known source b).isOther = b.isOther := by
  cases b with
  | mk key message span => rfl

/-! ## Steps from relaxed states -/

/-- A key is accepted (`acceptKey`) among relaxed branches if and only if it is among the branches.
-/
private theorem acceptKey_relaxChoice (choice : OpenChoice) (key : Key) (keyStart : Nat) :
    acceptKey (relaxChoice known source choice) key keyStart =
      (acceptKey choice key keyStart).map (relaxStage known source) := by
  have hkeys : (relaxChoice known source choice).branches.any (·.key == key) =
      choice.branches.any (·.key == key) := by
    simp [relaxChoice, List.any_map, Function.comp_def, relaxBranch, Branch.key]
  unfold acceptKey
  rw [hkeys]
  split <;> rfl

/-- A word is accepted (`acceptWord`) among relaxed branches if and only if it is among the
branches. -/
private theorem acceptWord_relaxChoice (choice : OpenChoice) (t : Token) :
    acceptWord (relaxChoice known source choice) t =
      (acceptWord choice t).map (relaxStage known source) := by
  unfold acceptWord
  change (if choice.kind = .plural && _ then _ else _) = _
  split
  · rfl
  · exact acceptKey_relaxChoice choice _ _

/-- A number is accepted (`acceptNumber`) among relaxed branches if and only if it is among the
branches. -/
private theorem acceptNumber_relaxChoice (choice : OpenChoice) (keyStart : Nat) (digits : List Char)
    : acceptNumber (relaxChoice known source choice) keyStart digits =
      (acceptNumber choice keyStart digits).map (relaxStage known source) := by
  unfold acceptNumber
  split
  · rfl
  · exact acceptKey_relaxChoice choice _ _

/-- No branch has been read where the type of an expression (`acceptType`) is. -/
private theorem map_acceptType (head : Head) (t : Token) :
    (acceptType head t).map (relaxStage known source) = acceptType head t := by
  unfold acceptType
  repeat' split
  all_goals rfl

/-- A stage that is reached is relaxed (`relaxStage`) together with the state. -/
private theorem bind_stage_relax {x y : Except ParseFailure Stage}
    (h : x = y.map (relaxStage known source)) (nodes : List Node) (outer : List OpenBranch) :
    (x.bind fun stage => .ok (State.mk (relaxRead known source nodes) stage
        (outer.map (relaxOpen known source)))) =
      (y.bind fun stage => .ok (State.mk nodes stage outer)).map (relaxState known source) := by
  subst h
  cases y <;> rfl

variable {q : Quoting} {limit : Int}

/-- From a relaxed state (`relaxState`) the reader that knows some names does what the strict one
does from the state. -/
theorem step_relax (s : State) (t : Token) :
    step ⟨q, some known, limit⟩ source (relaxState known source s) t =
      (step ⟨q, none, limit⟩ source s t).map (relaxState known source) := by
  obtain ⟨nodes, stage, outer⟩ := s
  have hexpected : (relaxStage known source stage).expected = stage.expected := by
    cases stage <;> rfl
  unfold Message.step
  simp only [relaxState, List.length_map, hexpected]
  by_cases hdepth : limit.toNat < outer.length
  · simp only [hdepth, if_true]
    rfl
  · simp only [hdepth, if_false]
    -- most pairs of a stage and a kind are refused or change the stage alone
    cases stage <;> cases hk : t.kind <;> simp only [relaxStage] <;> try rfl
    case nodes.text =>
      have hread := relaxRead_push known source nodes
        (.text t.value ⟨t.start, t.stop⟩)
      rw [relaxNode] at hread
      exact congrArg (fun read => Except.ok (State.mk read _ _)) hread.symm
    case nodes.closeBrace =>
      cases outer with
      | nil => rfl
      | cons b outer =>
        rw [reverse_relaxRead]
        rfl
    case opened.identifier start => split <;> rfl
    case named.closeBrace head =>
      -- here a name that is not known becomes text, and may join the text before it
      have hread := relaxRead_push known source nodes
        (.reference head.name ⟨head.start, t.stop⟩)
      rw [relaxNode] at hread
      rw [appendReference_eq_push, appendReference_eq_push]
      exact congrArg (fun read => Except.ok (State.mk read _ _)) hread.symm
    case typed.identifier head => exact bind_stage_relax (map_acceptType head t).symm nodes outer
    case branches.closeBrace choice =>
      have hother : (relaxChoice known source choice).branches.any Branch.isOther =
          choice.branches.any Branch.isOther := by
        simp [relaxChoice, List.any_map, Function.comp_def]
      rw [hother]
      split
      · have hnode : relaxNode known source (.choice choice.kind choice.head.name
            choice.branches.reverse ⟨choice.head.start, t.stop⟩) =
            .choice choice.kind choice.head.name
              (relaxChoice known source choice).branches.reverse
              ⟨choice.head.start, t.stop⟩ := by
          rw [relaxNode, relaxBranches_eq_map, List.map_reverse]
          rfl
        have hread := relaxRead_push known source nodes
          (.choice choice.kind choice.head.name choice.branches.reverse
            ⟨choice.head.start, t.stop⟩)
        rw [hnode] at hread
        exact congrArg (fun read => Except.ok (State.mk read _ _)) hread.symm
      · rfl
    case branches.equals choice =>
      change (if choice.kind = .plural then _ else _) = _
      split <;> rfl
    case branches.number choice =>
      exact bind_stage_relax (acceptWord_relaxChoice choice t) nodes outer
    case branches.identifier choice =>
      exact bind_stage_relax (acceptWord_relaxChoice choice t) nodes outer
    case exactKey.number choice keyStart =>
      exact bind_stage_relax (acceptNumber_relaxChoice choice keyStart _) nodes outer

/-- From a relaxed state (`relaxState`) the reader that knows some names goes on as the strict one
does from the state. -/
theorem steps_relax (s : State) (tokens : List Token) :
    steps ⟨q, some known, limit⟩ source (relaxState known source s) tokens =
      (steps ⟨q, none, limit⟩ source s tokens).map (relaxState known source) := by
  induction tokens generalizing s with
  | nil => rfl
  | cons t rest ih =>
    rw [steps, steps, step_relax]
    cases step ⟨q, none, limit⟩ source s t with
    | error e => rfl
    | ok s₁ => exact ih s₁

/-- A relaxed (`relax`) state ends as the state does. -/
private theorem finish_relax (s : State) (length : Nat) :
    finish ⟨q, some known, limit⟩ (relaxState known source s) length =
      (finish ⟨q, none, limit⟩ s length).map (relax known source) := by
  obtain ⟨nodes, stage, outer⟩ := s
  unfold finish
  simp only [relaxState, List.length_map]
  split
  · rfl
  · cases stage <;> cases outer <;> try rfl
    -- a text ends where nothing is open
    exact congrArg Except.ok (reverse_relaxRead nodes)

/-- Tokens (`ofTokens`) are read to the relaxed message, or refused for the same reason. -/
private theorem ofTokens_relax (tokens : List Token) :
    ofTokens ⟨q, some known, limit⟩ source tokens =
      (ofTokens ⟨q, none, limit⟩ source tokens).map (relax known source) := by
  rw [ofTokens, ofTokens]
  have hstart : State.start = relaxState known source State.start := rfl
  rw [hstart, steps_relax, ← hstart]
  cases steps ⟨q, none, limit⟩ source State.start tokens with
  | error e => rfl
  | ok s => exact finish_relax s source.length

/-! ## Texts -/

/-- When only some names are known, a text is refused for the same reason as when all are, and else
its message is the relaxed (`relax`) one. In it each name has the roles it had, and is written out
where it was if it is known; and it is the message itself, spans included, if every name that is
written out is known. -/
theorem parse_known_eq_map_relax (q : Quoting) (limit : Int) (known : List String)
    (text : String) :
    parse ⟨q, some known, limit⟩ text =
        (parse ⟨q, none, limit⟩ text).map (relax known text.toList) ∧
    ∀ m, parse ⟨q, none, limit⟩ text = .ok m →
      (∀ name use, Occurs (relax known text.toList m) name use ↔
        Occurs m name use ∧ (use = .plain → name ∈ known)) ∧
      ((∀ name, Occurs m name .plain → name ∈ known) →
        parse ⟨q, some known, limit⟩ text = .ok m) := by
  have hparse : parse ⟨q, some known, limit⟩ text =
      (parse ⟨q, none, limit⟩ text).map (relax known text.toList) := by
    rw [parse, parse]
    dsimp only
    cases Token.ofText q text with
    | error f => rfl
    | ok tokens => exact ofTokens_relax tokens
  refine ⟨hparse, fun m hm => ⟨fun name use => occurs_relax_iff name use m, fun hknown => ?_⟩⟩
  -- if every name is known, relaxing changes nothing in a message that was read
  obtain ⟨⟨hnodes, hseparate⟩, -⟩ := wellFormed_of_parse hm
  rw [hparse, hm]
  exact congrArg Except.ok (relax_of_known m hnodes hseparate hknown)

/-- Two references in a row and quoted text before a plural, with references in its branch. -/
def guestListText : String := "{b}{b}'\x7b'{n,plural,other{{b} of {a}}}"

/-- The message of the text when all names are known. -/
def guestList : Message :=
  [.reference "b" ⟨0, 3⟩, .reference "b" ⟨3, 6⟩, .text "\x7b" ⟨6, 9⟩,
   .choice .plural "n"
    [.mk .other [.reference "b" ⟨25, 28⟩, .text " of " ⟨28, 32⟩, .reference "a" ⟨32, 35⟩]
      ⟨19, 36⟩] ⟨9, 37⟩]

/-- When only one name is known (`ReadingOptions.known`), the references to the other one join the
texts beside them. -/
theorem parse_known_eq_map_relax_guestList :
    parse ⟨⟨true, "'"⟩, none, 32⟩ guestListText = .ok guestList ∧
    parse ⟨⟨true, "'"⟩, some ["a"], 32⟩ guestListText =
      .ok [.text "{b}{b}\x7b" ⟨0, 9⟩,
        .choice .plural "n"
          [.mk .other [.text "{b} of " ⟨25, 32⟩, .reference "a" ⟨32, 35⟩] ⟨19, 36⟩] ⟨9, 37⟩] ∧
    (∀ name use, Occurs (relax ["a"] guestListText.toList guestList) name use ↔
      Occurs guestList name use ∧ (use = .plain → name ∈ ["a"])) ∧
    parse ⟨⟨true, "'"⟩, some ["a", "b"], 32⟩ guestListText = .ok guestList := by
  have hparse : parse ⟨⟨true, "'"⟩, none, 32⟩ guestListText = .ok guestList := by decide +kernel
  obtain ⟨hone, hrelaxed⟩ := parse_known_eq_map_relax ⟨true, "'"⟩ 32 ["a"] guestListText
  refine ⟨hparse, ?_, (hrelaxed guestList hparse).1, ?_⟩
  · rw [hone, hparse]
    decide +kernel
  · refine ((parse_known_eq_map_relax ⟨true, "'"⟩ 32 ["a", "b"] guestListText).2 guestList
      hparse).2 ?_
    rintro name ⟨n, hn, huse⟩
    -- a name that is written out stands at the top or in the branch
    cases hn with
    | top h =>
      simp only [guestList, List.mem_cons, List.not_mem_nil, or_false] at h
      rcases h with rfl | rfl | rfl | rfl <;> simp_all [Node.usage?]
    | inside hchoice hbranch h =>
      simp only [guestList, List.mem_cons, List.not_mem_nil, or_false, reduceCtorEq, false_or,
        Node.choice.injEq] at hchoice
      obtain ⟨-, -, rfl, -⟩ := hchoice
      obtain rfl := List.mem_singleton.1 hbranch
      cases h with
      | top h =>
        simp only [Branch.message, List.mem_cons, List.not_mem_nil, or_false] at h
        rcases h with rfl | rfl | rfl <;> simp_all [Node.usage?]
      | inside hchoice => simp [Branch.message] at hchoice

end Parlance.Grammar
