import Parlance.Proofs.Message.Stepping

/-!
# The reader accepts what the grammar derives

Reading the tokens of a derivation adds its nodes to those read before (`steps_items`), whatever
stands open around it and whatever follows. Two things are asked besides: the branches do not go
deeper than the limit, and the number of an exact key has no more digits than an integer may have
(`FitsDigits`).
-/

namespace Parlance.Grammar

open Parlance.Message Parlance.Number

/-! ## Numbers of exact keys -/

/-- Whether every number after an equals sign has at most as many digits as an integer may. -/
def FitsDigits (tokens : List Token) : Prop :=
  ∀ e n : Token, [e, n] <:+: tokens → e.kind = .equals → n.kind = .number →
    n.value.length ≤ digitLimit

/-- What fits `digitLimit` fits it in every part. -/
theorem FitsDigits.of_part {tokens part : List Token} (h : FitsDigits tokens)
    (hp : part <:+: tokens) : FitsDigits part :=
  fun e n hen => h e n (hen.trans hp)

/-! ## Reading the parts of an expression -/

section

variable {options : ReadingOptions} {source : List Char} {nodes : List Node}
  {outer : List OpenBranch} (hdepth : outer.length ≤ options.limit.toNat)

include hdepth

/-- The reader takes an opening (`Opening`) brace and a name. -/
private theorem steps_opening {o : Opening} (ho : o.Valid) (rest : List Token) :
    steps options source ⟨nodes, .nodes, outer⟩ (o.leaves ++ rest) =
      steps options source ⟨nodes, .named ⟨o.brace.start, o.name.value⟩, outer⟩ rest := by
  rw [Opening.leaves, List.cons_append, List.singleton_append, steps_cons (.brace ho.1) hdepth,
    steps_cons (.name ho.2) hdepth]

/-- The reader takes the type of a plural or select (`ChoiceKind.keyword`), with its commas. -/
private theorem steps_choiceType {comma keyword second : Token} {kind : ChoiceKind} {head : Head}
    (hcomma : comma.kind = .comma) (hkeyword : IsWord kind.keyword keyword)
    (hsecond : second.kind = .comma) (rest : List Token) :
    steps options source ⟨nodes, .named head, outer⟩ (comma :: keyword :: second :: rest) =
      steps options source ⟨nodes, .branches ⟨head, kind, []⟩, outer⟩ rest := by
  rw [steps_cons (.nameComma hcomma) hdepth, steps_cons (.choiceType kind hkeyword) hdepth,
    steps_cons (.choiceComma hsecond) hdepth]

/-- The reader takes the type of a date or time (`ArgumentKind.keyword`). -/
private theorem steps_argumentType {comma keyword : Token} {kind : ArgumentKind} {head : Head}
    (hcomma : comma.kind = .comma) (hkeyword : IsWord kind.keyword keyword) (rest : List Token) :
    steps options source ⟨nodes, .named head, outer⟩ (comma :: keyword :: rest) =
      steps options source ⟨nodes, .argument head kind, outer⟩ rest := by
  rw [steps_cons (.nameComma hcomma) hdepth, steps_cons (.argumentType kind hkeyword) hdepth]

/-- The reader takes a format (`ValidFormat`), if there is one, and the closing brace. -/
private theorem steps_format {kind : ArgumentKind} {head : Head} {format : Option (Token × Token)}
    {c : Token} (hformat : ValidFormat format) (hc : c.kind = .closeBrace) (rest : List Token) :
    steps options source ⟨nodes, .argument head kind, outer⟩ (formatLeaves format ++ c :: rest) =
      steps options source ⟨.argument head.name kind (format.map (·.2.value))
        ⟨head.start, c.stop⟩ :: nodes, .nodes, outer⟩ rest := by
  cases format with
  | none => exact steps_cons (.endArgument hc) hdepth rest
  | some f =>
    obtain ⟨comma, word⟩ := f
    obtain ⟨hcomma, hword⟩ := hformat
    rw [formatLeaves, List.cons_append, List.singleton_append,
      steps_cons (.formatComma hcomma) hdepth, steps_cons (.format hword) hdepth,
      steps_cons (.endFormat hc) hdepth]
    rfl

/-- The reader takes a label (`Label`) whose key is new. -/
private theorem steps_label {choice : OpenChoice} {label : Label} (hlabel : label.Valid choice.kind)
    (hfresh : label.key ∉ keysOf choice) (hfits : FitsDigits label.leaves) (rest : List Token) :
    steps options source ⟨nodes, .branches choice, outer⟩ (label.leaves ++ rest) =
      steps options source ⟨nodes, .keyed choice label.key label.start, outer⟩ rest := by
  obtain ⟨head, kind, branches⟩ := choice
  -- Only a plural has exact keys, and only there a word has to be a category.
  cases kind <;> cases label
  case plural.exact equals number =>
    obtain ⟨he, hn⟩ := hlabel
    have hdigits := hfits equals number List.infix_rfl he hn
    rw [Label.leaves, List.cons_append, List.singleton_append, steps_cons (.equals he rfl) hdepth,
      steps_cons (.numberKey hn hdigits hfresh) hdepth]
    rfl
  case plural.word t =>
    obtain ⟨ht, hcategory⟩ := hlabel
    exact steps_cons (.wordKey (.inl ht) (fun _ => hcategory) hfresh) hdepth rest
  case select.exact => exact hlabel.elim
  case select.word t => exact steps_cons (.wordKey hlabel (by simp) hfresh) hdepth rest

end

/-! ## Reading a derivation -/

section

variable {options : ReadingOptions} {source : List Char}

mutual

/-- Reading the tokens of a message (`Item.leaves`) adds its nodes. -/
theorem steps_items : ∀ (items : List Item) (nodes : List Node) (outer : List OpenBranch)
    (rest : List Token), ValidItems items → FitsDigits (leavesOfItems items) →
    nestingOfItems items + outer.length ≤ options.limit.toNat →
    steps options source ⟨nodes, .nodes, outer⟩ (leavesOfItems items ++ rest) =
      steps options source ⟨(nodesOf (referenceNode options.known source) items).foldl push nodes,
        .nodes, outer⟩ rest
  | [], nodes, outer, rest, _, _, _ => by simp
  | .text t :: items, nodes, outer, rest, hvalid, hfits, hnesting => by
    obtain ⟨hi, hvalid⟩ := (validItems_cons _ _).1 hvalid
    rw [Item.Valid] at hi
    rw [nestingOfItems_cons] at hnesting
    have hdepth : outer.length ≤ options.limit.toNat := by omega
    rw [leavesOfItems_cons, Item.leaves] at hfits ⊢
    rw [List.append_assoc, List.singleton_append, steps_cons (.text hi) hdepth,
      steps_items items _ _ _ hvalid (hfits.of_part (List.suffix_append _ _).isInfix) (by omega),
      nodesOf_cons, List.foldl_cons, Item.node]
  | .reference o c :: items, nodes, outer, rest, hvalid, hfits, hnesting => by
    obtain ⟨hi, hvalid⟩ := (validItems_cons _ _).1 hvalid
    rw [Item.Valid] at hi
    obtain ⟨ho, hc⟩ := hi
    rw [nestingOfItems_cons] at hnesting
    have hdepth : outer.length ≤ options.limit.toNat := by omega
    rw [leavesOfItems_cons, Item.leaves] at hfits ⊢
    rw [List.append_assoc, List.append_assoc, List.singleton_append, steps_opening hdepth ho,
      steps_cons (.reference hc) hdepth,
      steps_items items _ _ _ hvalid (hfits.of_part (List.suffix_append _ _).isInfix) (by omega),
      nodesOf_cons, List.foldl_cons, Item.node]
  | .choice kind o comma keyword second arms c :: items, nodes, outer, rest, hvalid, hfits,
      hnesting => by
    obtain ⟨hi, hvalid⟩ := (validItems_cons _ _).1 hvalid
    rw [Item.Valid] at hi
    obtain ⟨ho, hcomma, hkeyword, hsecond, harms, hkeys, hother, hc⟩ := hi
    rw [nestingOfItems_cons, Item.nesting] at hnesting
    have hdepth : outer.length ≤ options.limit.toNat := by omega
    rw [leavesOfItems_cons, Item.leaves] at hfits ⊢
    have harmsFit : FitsDigits (leavesOfArms arms) :=
      hfits.of_part ⟨o.leaves ++ [comma, keyword, second], [c] ++ leavesOfItems items, by simp⟩
    -- the branches are read for a choice that has none yet, so their keys are new if distinct
    have hread := steps_arms arms ⟨⟨o.brace.start, o.name.value⟩, kind, []⟩ nodes outer
      (c :: (leavesOfItems items ++ rest)) harms hkeys harmsFit hdepth (by omega)
    simp only [List.append_assoc, List.cons_append, List.nil_append]
    rw [steps_opening hdepth ho, steps_choiceType hdepth hcomma hkeyword hsecond, hread,
      steps_cons (.endChoice hc (by simpa [keysOf, keys_branchesOf] using hother)) hdepth,
      steps_items items _ _ _ hvalid (hfits.of_part (List.suffix_append _ _).isInfix) (by omega),
      nodesOf_cons, List.foldl_cons, Item.node, List.append_nil, List.reverse_reverse]
    rfl
  | .argument kind o comma keyword format c :: items, nodes, outer, rest, hvalid, hfits,
      hnesting => by
    obtain ⟨hi, hvalid⟩ := (validItems_cons _ _).1 hvalid
    rw [Item.Valid] at hi
    obtain ⟨ho, hcomma, hkeyword, hformat, hc⟩ := hi
    rw [nestingOfItems_cons] at hnesting
    have hdepth : outer.length ≤ options.limit.toNat := by omega
    rw [leavesOfItems_cons, Item.leaves] at hfits ⊢
    simp only [List.append_assoc, List.cons_append, List.nil_append]
    rw [steps_opening hdepth ho, steps_argumentType hdepth hcomma hkeyword,
      steps_format hdepth hformat hc,
      steps_items items _ _ _ hvalid (hfits.of_part (List.suffix_append _ _).isInfix) (by omega),
      nodesOf_cons, List.foldl_cons, Item.node]
    rfl

/-- Reading the tokens of branches (`leavesOfArms`) adds the branches, if their keys are new. -/
theorem steps_arms : ∀ (arms : List Arm) (choice : OpenChoice) (nodes : List Node)
    (outer : List OpenBranch) (rest : List Token), ValidArms choice.kind arms →
    (keysOf choice ++ arms.map Arm.key).Nodup →
    FitsDigits (leavesOfArms arms) → outer.length ≤ options.limit.toNat →
    nestingOfArms arms + outer.length ≤ options.limit.toNat →
    steps options source ⟨nodes, .branches choice, outer⟩ (leavesOfArms arms ++ rest) =
      steps options source ⟨nodes, .branches ⟨choice.head, choice.kind,
        (branchesOf (referenceNode options.known source) arms).reverse ++ choice.branches⟩,
        outer⟩ rest
  | [], choice, nodes, outer, rest, _, _, _, _, _ => by simp
  | .mk label brace message c :: arms, choice, nodes, outer, rest, hvalid, hkeys, hfits, hdepth,
      hnesting => by
    obtain ⟨hlabel, hbrace, hmessage, hc, hvalid⟩ := (validArms_cons ..).1 hvalid
    rw [nestingOfArms_cons] at hnesting
    rw [leavesOfArms_cons] at hfits ⊢
    rw [List.map_cons, Arm.key] at hkeys
    have hfresh : label.key ∉ keysOf choice := fun hmem =>
      (List.nodup_append.1 hkeys).2.2 _ hmem _ List.mem_cons_self rfl
    have hlabelFits : FitsDigits label.leaves := hfits.of_part
      ⟨[], [brace] ++ leavesOfItems message ++ [c] ++ leavesOfArms arms, by simp⟩
    have hmessageFits : FitsDigits (leavesOfItems message) := hfits.of_part
      ⟨label.leaves ++ [brace], [c] ++ leavesOfArms arms, by simp⟩
    -- inside of the branch there is one open branch more, which the nesting has room for
    have hinside : outer.length + 1 ≤ options.limit.toNat := by omega
    have hread := steps_items message [] (⟨nodes, choice, label.key, label.start⟩ :: outer)
      (c :: (leavesOfArms arms ++ rest)) hmessage hmessageFits
      (by rw [List.length_cons]; omega)
    have hmore := steps_arms arms ⟨choice.head, choice.kind,
        .mk label.key (messageOf (referenceNode options.known source) message)
          ⟨label.start, c.stop⟩ :: choice.branches⟩ nodes outer rest hvalid
      (List.perm_middle.nodup_iff.1 hkeys)
      (hfits.of_part (List.suffix_append _ _).isInfix) hdepth (by omega)
    simp only [List.append_assoc, List.cons_append, List.nil_append]
    rw [steps_label hdepth hlabel hfresh hlabelFits, steps_cons (.openBranch hbrace) hdepth,
      hread, steps_cons (.endBranch hc) hinside, reverse_foldl_push, branchesOf_cons,
      List.reverse_cons, List.append_assoc]
    exact hmore

end

/-- A derivation is accepted (`ofTokens`), and gives its message. -/
theorem ofTokens_of_derivation {items : List Item} (hvalid : ValidItems items)
    (hnesting : nestingOfItems items ≤ options.limit.toNat)
    (hfits : FitsDigits (leavesOfItems items)) :
    ofTokens options source (leavesOfItems items) =
      .ok (messageOf (referenceNode options.known source) items) := by
  have hread : steps options source State.start (leavesOfItems items) =
      .ok ⟨(nodesOf (referenceNode options.known source) items).foldl push [], .nodes, []⟩ := by
    simpa [steps, State.start] using
      steps_items items [] [] [] hvalid hfits (by simpa using hnesting)
  rw [ofTokens, hread, Except.bind, finish, if_neg (by simp), reverse_foldl_push, messageOf]

end

end Parlance.Grammar
