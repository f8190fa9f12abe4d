import Parlance.Proofs.Message.Scanning
import Parlance.Proofs.Message.Stepping

/-!
# The grammar derives what the reader accepts

At any time, what has been read is a derivation that is cut off: the messages and choices around the
innermost construct, the parts of the innermost message, and the beginning of a part (`Reads`). One
more token keeps it one (`reads_step`), hence any number of tokens does (`reads_steps`), and a text
ends where the derivation is whole (`derivation_of_ofTokens`).
-/

namespace Parlance.Grammar

open Parlance.Message Parlance.Number

section

variable (reference : String → Span → Node) (limit : Nat)

/-- The tokens of a choice as far as it has been read, where `depth` branches stand open. -/
inductive ReadsChoice (depth : Nat) : OpenChoice → List Token → Prop where
  | mk {kind : ChoiceKind} {o : Opening} {comma keyword second : Token} {arms : List Arm}
      (ho : o.Valid) (hcomma : comma.kind = .comma) (hkeyword : IsWord kind.keyword keyword)
      (hsecond : second.kind = .comma) (harms : ValidArms kind arms)
      (hkeys : (arms.map Arm.key).Nodup) (hnesting : nestingOfArms arms ≤ limit - depth) :
    ReadsChoice depth
      ⟨⟨o.brace.start, o.name.value⟩, kind, (branchesOf reference arms).reverse⟩
      (o.leaves ++ [comma, keyword, second] ++ leavesOfArms arms)

/-- The tokens of the part that is being read. -/
inductive ReadsStage (depth : Nat) : Stage → List Token → Prop where
  | nodes : ReadsStage depth .nodes []
  | opened {b : Token} (hb : b.kind = .openBrace) : ReadsStage depth (.opened b.start) [b]
  | named {o : Opening} (ho : o.Valid) :
    ReadsStage depth (.named ⟨o.brace.start, o.name.value⟩) o.leaves
  | typed {o : Opening} {comma : Token} (ho : o.Valid) (hcomma : comma.kind = .comma) :
    ReadsStage depth (.typed ⟨o.brace.start, o.name.value⟩) (o.leaves ++ [comma])
  | chosen {o : Opening} {comma keyword : Token} {kind : ChoiceKind} (ho : o.Valid)
      (hcomma : comma.kind = .comma) (hkeyword : IsWord kind.keyword keyword) :
    ReadsStage depth (.chosen ⟨o.brace.start, o.name.value⟩ kind) (o.leaves ++ [comma, keyword])
  | branches {choice : OpenChoice} {ts : List Token}
      (h : ReadsChoice reference limit depth choice ts) : ReadsStage depth (.branches choice) ts
  | exactKey {choice : OpenChoice} {ts : List Token} {equals : Token}
      (h : ReadsChoice reference limit depth choice ts) (hkind : choice.kind = .plural)
      (hequals : equals.kind = .equals) :
    ReadsStage depth (.exactKey choice equals.start) (ts ++ [equals])
  | keyed {choice : OpenChoice} {ts : List Token} {label : Label}
      (h : ReadsChoice reference limit depth choice ts) (hlabel : label.Valid choice.kind)
      (hfresh : label.key ∉ keysOf choice) :
    ReadsStage depth (.keyed choice label.key label.start) (ts ++ label.leaves)
  | argument {o : Opening} {comma keyword : Token} {kind : ArgumentKind} (ho : o.Valid)
      (hcomma : comma.kind = .comma) (hkeyword : IsWord kind.keyword keyword) :
    ReadsStage depth (.argument ⟨o.brace.start, o.name.value⟩ kind)
      (o.leaves ++ [comma, keyword])
  | format {o : Opening} {comma keyword second : Token} {kind : ArgumentKind} (ho : o.Valid)
      (hcomma : comma.kind = .comma) (hkeyword : IsWord kind.keyword keyword)
      (hsecond : second.kind = .comma) :
    ReadsStage depth (.format ⟨o.brace.start, o.name.value⟩ kind)
      (o.leaves ++ [comma, keyword, second])
  | formatted {o : Opening} {comma keyword second word : Token} {kind : ArgumentKind}
      (ho : o.Valid) (hcomma : comma.kind = .comma) (hkeyword : IsWord kind.keyword keyword)
      (hsecond : second.kind = .comma) (hword : word.kind = .identifier) :
    ReadsStage depth (.formatted ⟨o.brace.start, o.name.value⟩ kind word.value)
      (o.leaves ++ [comma, keyword, second, word])

/-- The tokens of the branches that stand open, the outermost first. -/
inductive ReadsOuter : List OpenBranch → List Token → Prop where
  | nil : ReadsOuter [] []
  | cons {outer : List OpenBranch} {before : List Token} {items : List Item}
      {choice : OpenChoice} {ts : List Token} {label : Label} {brace : Token}
      (houter : ReadsOuter outer before) (hitems : ValidItems items)
      (hnesting : nestingOfItems items ≤ limit - outer.length)
      (h : ReadsChoice reference limit outer.length choice ts)
      (hlabel : label.Valid choice.kind) (hfresh : label.key ∉ keysOf choice)
      (hbrace : brace.kind = .openBrace) :
    ReadsOuter
      (⟨(nodesOf reference items).foldl push [], choice, label.key, label.start⟩ :: outer)
      (before ++ leavesOfItems items ++ (ts ++ label.leaves ++ [brace]))

/-- The tokens that have been read when the reader is in a state. -/
inductive Reads : State → List Token → Prop where
  | mk {outer : List OpenBranch} {before : List Token} {items : List Item} {stage : Stage}
      {now : List Token} (houter : ReadsOuter reference limit outer before)
      (hitems : ValidItems items) (hnesting : nestingOfItems items ≤ limit - outer.length)
      (hstage : ReadsStage reference limit outer.length stage now) :
    Reads ⟨(nodesOf reference items).foldl push [], stage, outer⟩
      (before ++ leavesOfItems items ++ now)

end

/-! ## One more token -/

variable {reference : String → Span → Node} {limit : Nat}

/-- A part that has been read (`Reads`) to its end belongs to the parts before it. -/
theorem reads_item {outer : List OpenBranch} {before : List Token} {items : List Item} {i : Item}
    (houter : ReadsOuter reference limit outer before) (hitems : ValidItems items)
    (hnesting : nestingOfItems items ≤ limit - outer.length) (hi : i.Valid)
    (hin : i.nesting ≤ limit - outer.length) :
    Reads reference limit
      ⟨push ((nodesOf reference items).foldl push []) (i.node reference), .nodes, outer⟩
      (before ++ leavesOfItems items ++ i.leaves) := by
  -- The part is the last of the items, in the nodes and in the leaves alike.
  have hnodes : (nodesOf reference (items ++ [i])).foldl push [] =
      push ((nodesOf reference items).foldl push []) (i.node reference) := by
    rw [nodesOf_append, List.foldl_append]
    simp
  have hleaves : before ++ leavesOfItems items ++ i.leaves =
      before ++ leavesOfItems (items ++ [i]) ++ [] := by
    simp [leavesOfItems_append]
  rw [← hnodes, hleaves]
  refine .mk houter ((validItems_append _ _).2 ⟨hitems, ?_⟩) ?_ .nodes
  · simpa using hi
  · rw [nestingOfItems_append]
    simpa using Nat.max_le.2 ⟨hnesting, hin⟩

/-- A choice (`ReadsChoice`) of which no branch has been read. -/
private theorem readsChoice_nil {depth : Nat} {kind : ChoiceKind} {o : Opening}
    {comma keyword second : Token} (ho : o.Valid) (hcomma : comma.kind = .comma)
    (hkeyword : IsWord kind.keyword keyword) (hsecond : second.kind = .comma) :
    ReadsChoice reference limit depth ⟨⟨o.brace.start, o.name.value⟩, kind, []⟩
      (o.leaves ++ [comma, keyword, second]) := by
  have h : ReadsChoice reference limit depth
      ⟨⟨o.brace.start, o.name.value⟩, kind, (branchesOf reference []).reverse⟩
      (o.leaves ++ [comma, keyword, second] ++ leavesOfArms []) :=
    .mk ho hcomma hkeyword hsecond (validArms_nil _) (by simp) (by simp)
  simpa using h

/-- A branch that has been read to its end (`ReadsChoice`) belongs to the branches before it. -/
theorem readsChoice_arm {depth : Nat} {choice : OpenChoice} {ts : List Token} {label : Label}
    {brace c : Token} {message : List Item} (h : ReadsChoice reference limit depth choice ts)
    (hlabel : label.Valid choice.kind) (hfresh : label.key ∉ keysOf choice)
    (hbrace : brace.kind = .openBrace) (hmessage : ValidItems message)
    (hc : c.kind = .closeBrace) (hnesting : nestingOfItems message + 1 ≤ limit - depth) :
    ReadsChoice reference limit depth
      ⟨choice.head, choice.kind,
        .mk label.key (messageOf reference message) ⟨label.start, c.stop⟩ :: choice.branches⟩
      (ts ++ label.leaves ++ [brace] ++ leavesOfItems message ++ [c]) := by
  cases h with
  | @mk kind o comma keyword second arms ho hcomma hkeyword hsecond harms hkeys hn =>
    -- Branches are held in reverse, so the new one stands in front of them.
    have hbranches : (branchesOf reference (arms ++ [.mk label brace message c])).reverse =
        .mk label.key (messageOf reference message) ⟨label.start, c.stop⟩ ::
          (branchesOf reference arms).reverse := by
      rw [branchesOf_append, List.reverse_append]
      simp
    have hleaves : o.leaves ++ [comma, keyword, second] ++ leavesOfArms arms ++ label.leaves ++
        [brace] ++ leavesOfItems message ++ [c] =
        o.leaves ++ [comma, keyword, second] ++
          leavesOfArms (arms ++ [.mk label brace message c]) := by
      simp [leavesOfArms_append]
    -- A fresh key is none of the keys of the arms.
    have hnew : label.key ∉ arms.map Arm.key := by
      simpa [keysOf, keys_branchesOf] using hfresh
    rw [hleaves, ← hbranches]
    refine .mk ho hcomma hkeyword hsecond ((validArms_append ..).2 ⟨harms, ?_⟩) ?_ ?_
    · simpa using ⟨hlabel, hbrace, hmessage, hc⟩
    · rw [List.map_append, List.nodup_append]
      refine ⟨hkeys, by simp, fun k hk k' hk' heq => ?_⟩
      have : k' = label.key := by simpa [Arm.key] using hk'
      exact hnew (this ▸ heq ▸ hk)
    · rw [nestingOfArms_append]
      simpa using Nat.max_le.2 ⟨hn, hnesting⟩

/-- A word that a plural or a select may have as a key is a valid (`Valid`) one. -/
theorem word_valid {kind : ChoiceKind} {t : Token} (ht : t.kind = .identifier ∨ t.kind = .number)
    (hsound : t.WordSound) (hword : kind = .plural → t.value ∈ pluralCategories) :
    (Label.word t).Valid kind := by
  cases kind with
  | select => exact ht
  | plural =>
    refine ⟨?_, hword rfl⟩
    -- a number is no category, since its characters are digits
    rcases ht with ht | ht
    · exact ht
    · have hkind := (hsound (.inr ht)).2.2
      have hnot : ∀ w ∈ pluralCategories, Token.wordKind w.toList ≠ .number := by decide
      exact absurd (hkind ▸ ht) (hnot _ (hword rfl))

variable {known : Option (List String)} {source : List Char}

/-- What has been read (`Reads`) stays a derivation that is cut off when one more token is read. -/
theorem reads_step {s s' : State} {t : Token} {tokens : List Token}
    (h : Reads (referenceNode known source) limit s tokens) (hsound : t.WordSound)
    (hdepth : s.outer.length ≤ limit) (hstep : Step known source s t s') :
    Reads (referenceNode known source) limit s' (tokens ++ [t]) := by
  obtain ⟨houter, hitems, hnesting, hstage⟩ := h
  -- the rule and the stage fix each other: what each rule needs of the stage is what the tokens
  -- read for it have shown
  cases hstep with
  | text ht =>
    cases hstage
    have hread := reads_item houter hitems hnesting (i := .text t) (by rwa [Item.Valid])
      (by simp [Item.nesting])
    simpa [Item.leaves, Item.node] using hread
  | brace ht =>
    cases hstage
    rw [List.append_assoc]
    exact .mk houter hitems hnesting (.opened ht)
  | endBranch ht =>
    cases hstage
    cases houter with
    | cons houter hitems' hnesting' hchoice hlabel hfresh hbrace =>
      -- the branch is closed one level further out, where its nesting counts one more
      simp only [List.length_cons] at hdepth hnesting
      have hread := readsChoice_arm hchoice hlabel hfresh hbrace hitems ht (by omega)
      rw [messageOf, ← reverse_foldl_push] at hread
      simpa using Reads.mk houter hitems' hnesting' (.branches hread)
  | name ht =>
    cases hstage with
    | opened hb =>
      rw [List.append_assoc]
      exact .mk houter hitems hnesting (.named (o := ⟨_, t⟩) ⟨hb, ht⟩)
  | reference ht =>
    cases hstage with
    | named ho =>
      have hread := reads_item houter hitems hnesting (i := .reference _ t)
        (by rw [Item.Valid]; exact ⟨ho, ht⟩) (by simp [Item.nesting])
      simpa [Item.leaves, Item.node] using hread
  | nameComma ht =>
    cases hstage with
    | named ho =>
      rw [List.append_assoc]
      exact .mk houter hitems hnesting (.typed ho ht)
  | choiceType kind ht =>
    cases hstage with
    | typed ho hcomma =>
      rw [List.append_assoc, List.append_assoc _ [_]]
      exact .mk houter hitems hnesting (.chosen ho hcomma ht)
  | argumentType kind ht =>
    cases hstage with
    | typed ho hcomma =>
      rw [List.append_assoc, List.append_assoc _ [_]]
      exact .mk houter hitems hnesting (.argument ho hcomma ht)
  | choiceComma ht =>
    cases hstage with
    | chosen ho hcomma hkeyword =>
      rw [List.append_assoc, List.append_assoc _ [_, _]]
      exact .mk houter hitems hnesting (.branches (readsChoice_nil ho hcomma hkeyword ht))
  | endChoice ht hother =>
    cases hstage with
    | branches hchoice =>
      -- all that a choice must be has been checked, but for `other`
      obtain ⟨ho, hcomma, hkeyword, hsecond, harms, hkeys, hnesting'⟩ := hchoice
      have hread := reads_item houter hitems hnesting (i := .choice _ _ _ _ _ _ t)
        (by
          rw [Item.Valid]
          refine ⟨ho, hcomma, hkeyword, hsecond, harms, hkeys, ?_, ht⟩
          simpa [keysOf, keys_branchesOf] using hother)
        (by rw [Item.nesting]; exact hnesting')
      simpa [Item.leaves, Item.node, push] using hread
  | equals ht hkind =>
    cases hstage with
    | branches hchoice =>
      rw [List.append_assoc]
      exact .mk houter hitems hnesting (.exactKey hchoice hkind ht)
  | wordKey ht hword hfresh =>
    cases hstage with
    | branches hchoice =>
      rw [List.append_assoc]
      have hlabel := word_valid ht hsound hword
      exact .mk houter hitems hnesting (.keyed hchoice hlabel hfresh)
  | @numberKey _ choice _ _ _ ht hdigits hfresh =>
    cases hstage with
    | @exactKey _ _ equals hchoice hkind hequals =>
      rw [List.append_assoc, List.append_assoc _ [_]]
      have hlabel : (Label.exact equals t).Valid choice.kind := by
        rw [hkind]
        exact ⟨hequals, ht⟩
      exact .mk houter hitems hnesting (.keyed hchoice hlabel hfresh)
  | openBranch ht =>
    cases hstage with
    | keyed hchoice hlabel hfresh =>
      have houter' := ReadsOuter.cons houter hitems hnesting hchoice hlabel hfresh ht
      simpa using Reads.mk houter' validItems_nil (by simp) .nodes
  | endArgument ht =>
    cases hstage with
    | argument ho hcomma hkeyword =>
      have hread := reads_item houter hitems hnesting (i := .argument _ _ _ _ none t)
        (by rw [Item.Valid]; exact ⟨ho, hcomma, hkeyword, trivial, ht⟩) (by simp [Item.nesting])
      simpa [Item.leaves, Item.node, formatLeaves, push] using hread
  | formatComma ht =>
    cases hstage with
    | argument ho hcomma hkeyword =>
      rw [List.append_assoc, List.append_assoc _ [_, _]]
      exact .mk houter hitems hnesting (.format ho hcomma hkeyword ht)
  | format ht =>
    cases hstage with
    | format ho hcomma hkeyword hsecond =>
      rw [List.append_assoc, List.append_assoc _ [_, _, _]]
      exact .mk houter hitems hnesting (.formatted ho hcomma hkeyword hsecond ht)
  | endFormat ht =>
    cases hstage with
    | formatted ho hcomma hkeyword hsecond hword =>
      have hread := reads_item houter hitems hnesting (i := .argument _ _ _ _ (some (_, _)) t)
        (by rw [Item.Valid]; exact ⟨ho, hcomma, hkeyword, ⟨hsecond, hword⟩, ht⟩)
        (by simp [Item.nesting])
      simpa [Item.leaves, Item.node, formatLeaves, push] using hread

/-! ## Whole texts -/

variable {options : ReadingOptions}

/-- What has been read (`Reads`) stays a derivation that is cut off when more tokens are read. -/
theorem reads_steps {s s' : State} {before tokens : List Token}
    (h : Reads (referenceNode options.known source) options.limit.toNat s before)
    (hsound : ∀ t ∈ tokens, t.WordSound) (hsteps : steps options source s tokens = .ok s') :
    Reads (referenceNode options.known source) options.limit.toNat s' (before ++ tokens) := by
  induction tokens generalizing s before with
  | nil =>
    cases hsteps
    rwa [List.append_nil]
  | cons t rest ih =>
    obtain ⟨s₁, hstep, hrest⟩ := exists_of_steps_cons hsteps
    obtain ⟨hdepth, hrule⟩ := step_of_eq_ok hstep
    -- the token that was taken joins those before
    have hread := reads_step h (hsound t List.mem_cons_self) hdepth hrule
    rw [← List.singleton_append, ← List.append_assoc]
    exact ih hread (fun u hu => hsound u (List.mem_cons_of_mem _ hu)) hrest

/-- At the start nothing has been read (`Reads`), which is the derivation of no items. -/
private theorem reads_start : Reads reference limit State.start [] :=
  .mk .nil validItems_nil (by simp) .nodes

/-- A message ends (`finish`) outside of every expression. -/
theorem finish_eq_ok {s : State} {length : Nat} {m : Message}
    (h : finish options s length = .ok m) :
    s.stage = .nodes ∧ s.outer = [] ∧ m = s.nodes.reverse := by
  unfold finish at h
  split at h
  · cases h
  · split at h
    · next hstage houter => exact ⟨hstage, houter, (Except.ok.inj h).symm⟩
    · cases h
    · cases h

/-- Tokens that the reader accepts (`ofTokens`) have a derivation. -/
theorem derivation_of_ofTokens {tokens : List Token} {m : Message}
    (hsound : ∀ t ∈ tokens, t.WordSound) (h : ofTokens options source tokens = .ok m) :
    ∃ items, ValidItems items ∧ nestingOfItems items ≤ options.limit.toNat ∧
      leavesOfItems items = tokens ∧ m = messageOf (referenceNode options.known source) items := by
  rw [ofTokens] at h
  obtain ⟨s, hsteps, hfinish⟩ := bind_eq_ok_iff.1 h
  obtain ⟨hstage, houter, hm⟩ := finish_eq_ok hfinish
  -- at the end nothing is open, so all that has been read is the items of the message
  have hread := reads_steps reads_start hsound hsteps
  obtain ⟨houter', hitems, hnesting, hstage'⟩ := hread
  subst hstage houter
  cases houter'
  cases hstage'
  exact ⟨_, hitems, hnesting, by simp, hm.trans (reverse_foldl_push _)⟩

end Parlance.Grammar
