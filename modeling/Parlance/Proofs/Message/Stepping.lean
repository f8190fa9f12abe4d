import Parlance.Proofs.Message.Joining
import Parlance.Proofs.Results

/-!
# The steps of the reader of messages

`Step` lists what the reader does with one token: a rule for each thing that can come next at each
stage. The reader takes a token exactly when a rule allows it and the branches that stand open are
not nested too deeply (`step_of_eq_ok`, `Step.eq_ok`); it takes several when it takes one after the
other (`steps_cons`, `exists_of_steps_cons`).
-/

namespace Parlance.Grammar

open Parlance.Message Parlance.Number

/-- What a name in braces is: a reference, or the text it was written as when it is not known. -/
def referenceNode (known : Option (List String)) (source : List Char) (name : String)
    (span : Span) : Node :=
  match known with
  | some names =>
    if names.contains name then .reference name span else .text (slice source span) span
  | none => .reference name span

/-- Adding a reference (`appendReference`) is pushing its node, which is text for a name that is not
known. -/
theorem appendReference_eq_push (known : Option (List String)) (source : List Char)
    (nodes : List Node) (name : String) (span : Span) :
    appendReference known source nodes name span =
      push nodes (referenceNode known source name span) := by
  cases known with
  | none => rfl
  | some names =>
    simp only [appendReference, referenceNode]
    split <;> rfl

/-- `isName` decides `IsName`. -/
private theorem isName_iff (t : Token) : isName t = true ↔ IsName t := by
  simp only [isName, IsName, Bool.and_eq_true, beq_iff_eq]
  cases t.value.toList <;> simp

/-- The keys of the branches of a choice that have been read. -/
def keysOf (choice : OpenChoice) : List Key := choice.branches.map Branch.key

/-- What the reader does with a token. -/
inductive Step (known : Option (List String)) (source : List Char) :
    State → Token → State → Prop where
  | text {nodes outer t} (ht : t.kind = .text) :
    Step known source ⟨nodes, .nodes, outer⟩ t
      ⟨push nodes (.text t.value ⟨t.start, t.stop⟩), .nodes, outer⟩
  | brace {nodes outer t} (ht : t.kind = .openBrace) :
    Step known source ⟨nodes, .nodes, outer⟩ t ⟨nodes, .opened t.start, outer⟩
  | endBranch {nodes b outer t} (ht : t.kind = .closeBrace) :
    Step known source ⟨nodes, .nodes, b :: outer⟩ t
      ⟨b.siblings, .branches ⟨b.choice.head, b.choice.kind,
        .mk b.key nodes.reverse ⟨b.keyStart, t.stop⟩ :: b.choice.branches⟩, outer⟩
  | name {nodes start outer t} (ht : IsName t) :
    Step known source ⟨nodes, .opened start, outer⟩ t ⟨nodes, .named ⟨start, t.value⟩, outer⟩
  | reference {nodes head outer t} (ht : t.kind = .closeBrace) :
    Step known source ⟨nodes, .named head, outer⟩ t
      ⟨push nodes (referenceNode known source head.name ⟨head.start, t.stop⟩), .nodes, outer⟩
  | nameComma {nodes head outer t} (ht : t.kind = .comma) :
    Step known source ⟨nodes, .named head, outer⟩ t ⟨nodes, .typed head, outer⟩
  | choiceType {nodes head outer t} (kind : ChoiceKind) (ht : IsWord kind.keyword t) :
    Step known source ⟨nodes, .typed head, outer⟩ t ⟨nodes, .chosen head kind, outer⟩
  | argumentType {nodes head outer t} (kind : ArgumentKind) (ht : IsWord kind.keyword t) :
    Step known source ⟨nodes, .typed head, outer⟩ t ⟨nodes, .argument head kind, outer⟩
  | choiceComma {nodes head kind outer t} (ht : t.kind = .comma) :
    Step known source ⟨nodes, .chosen head kind, outer⟩ t
      ⟨nodes, .branches ⟨head, kind, []⟩, outer⟩
  | endChoice {nodes choice outer t} (ht : t.kind = .closeBrace)
      (hother : Key.other ∈ keysOf choice) :
    Step known source ⟨nodes, .branches choice, outer⟩ t
      ⟨.choice choice.kind choice.head.name choice.branches.reverse
        ⟨choice.head.start, t.stop⟩ :: nodes, .nodes, outer⟩
  | equals {nodes choice outer t} (ht : t.kind = .equals) (hkind : choice.kind = .plural) :
    Step known source ⟨nodes, .branches choice, outer⟩ t
      ⟨nodes, .exactKey choice t.start, outer⟩
  | wordKey {nodes choice outer t} (ht : t.kind = .identifier ∨ t.kind = .number)
      (hword : choice.kind = .plural → t.value ∈ pluralCategories)
      (hfresh : .word t.value ∉ keysOf choice) :
    Step known source ⟨nodes, .branches choice, outer⟩ t
      ⟨nodes, .keyed choice (.word t.value) t.start, outer⟩
  | numberKey {nodes choice keyStart outer t} (ht : t.kind = .number)
      (hdigits : t.value.length ≤ digitLimit)
      (hfresh : .exact ((ofDigits? t.value.toList).getD 0) ∉ keysOf choice) :
    Step known source ⟨nodes, .exactKey choice keyStart, outer⟩ t
      ⟨nodes, .keyed choice (.exact ((ofDigits? t.value.toList).getD 0)) keyStart, outer⟩
  | openBranch {nodes choice key keyStart outer t} (ht : t.kind = .openBrace) :
    Step known source ⟨nodes, .keyed choice key keyStart, outer⟩ t
      ⟨[], .nodes, ⟨nodes, choice, key, keyStart⟩ :: outer⟩
  | endArgument {nodes head kind outer t} (ht : t.kind = .closeBrace) :
    Step known source ⟨nodes, .argument head kind, outer⟩ t
      ⟨.argument head.name kind none ⟨head.start, t.stop⟩ :: nodes, .nodes, outer⟩
  | formatComma {nodes head kind outer t} (ht : t.kind = .comma) :
    Step known source ⟨nodes, .argument head kind, outer⟩ t ⟨nodes, .format head kind, outer⟩
  | format {nodes head kind outer t} (ht : t.kind = .identifier) :
    Step known source ⟨nodes, .format head kind, outer⟩ t
      ⟨nodes, .formatted head kind t.value, outer⟩
  | endFormat {nodes head kind skeleton outer t} (ht : t.kind = .closeBrace) :
    Step known source ⟨nodes, .formatted head kind skeleton, outer⟩ t
      ⟨.argument head.name kind (some skeleton) ⟨head.start, t.stop⟩ :: nodes, .nodes, outer⟩

/-! ## Keys -/

/-- A key is accepted (`acceptKey`) if and only if it is new. -/
private theorem acceptKey_eq_ok_iff {choice : OpenChoice} {key : Key} {keyStart : Nat}
    {stage : Stage} : acceptKey choice key keyStart = .ok stage ↔
      key ∉ keysOf choice ∧ stage = .keyed choice key keyStart := by
  have hany : choice.branches.any (·.key == key) = true ↔ key ∈ keysOf choice := by
    simp [keysOf, List.any_eq_true]
  unfold acceptKey
  split
  · next h => simp [failAt, hany.1 h]
  · next h =>
    have hnew : key ∉ keysOf choice := fun hk => h (hany.2 hk)
    simp [hnew, eq_comm]

/-- A word is accepted (`acceptWord`) if and only if it is new, and a category where the choice is a
plural. -/
private theorem acceptWord_eq_ok_iff {choice : OpenChoice} {t : Token} {stage : Stage} :
    acceptWord choice t = .ok stage ↔
      (choice.kind = .plural → t.value ∈ pluralCategories) ∧ .word t.value ∉ keysOf choice ∧
        stage = .keyed choice (.word t.value) t.start := by
  unfold acceptWord
  -- the word is refused as no category, or else it is tried as a key
  split
  · next h =>
    simp only [Bool.and_eq_true, Bool.not_eq_true', List.contains_eq_mem,
      decide_eq_false_iff_not, decide_eq_true_eq] at h
    simp [failAt, h.1, h.2]
  · next h =>
    simp only [Bool.and_eq_true, Bool.not_eq_true', List.contains_eq_mem,
      decide_eq_false_iff_not, decide_eq_true_eq, not_and, not_not] at h
    rw [acceptKey_eq_ok_iff]
    exact ⟨fun hk => ⟨h, hk⟩, fun hk => hk.2⟩

/-- A number is accepted if and only if it is new and `digitLimit` allows it. -/
private theorem acceptNumber_eq_ok_iff {choice : OpenChoice} {keyStart : Nat} {digits : List Char}
    {stage : Stage} :
    acceptNumber choice keyStart digits = .ok stage ↔
      digits.length ≤ digitLimit ∧ .exact ((ofDigits? digits).getD 0) ∉ keysOf choice ∧
        stage = .keyed choice (.exact ((ofDigits? digits).getD 0)) keyStart := by
  unfold acceptNumber
  split
  · next h => simp [Nat.not_le.2 h]
  · next h =>
    rw [acceptKey_eq_ok_iff]
    exact ⟨fun hk => ⟨Nat.not_lt.1 h, hk⟩, fun hk => hk.2⟩

/-- A type is accepted (`acceptType`) if and only if it is one of the four keywords. -/
private theorem acceptType_eq_ok_iff {head : Head} {t : Token} {stage : Stage} :
    acceptType head t = .ok stage ↔
      (∃ kind : ChoiceKind, t.value = kind.keyword ∧ stage = .chosen head kind) ∨
        ∃ kind : ArgumentKind, t.value = kind.keyword ∧ stage = .argument head kind := by
  constructor
  · intro h
    unfold acceptType at h
    -- four keywords are tried in turn
    split at h
    · next hv => exact .inl ⟨.plural, hv, (Except.ok.inj h).symm⟩
    · split at h
      · next hv => exact .inl ⟨.select, hv, (Except.ok.inj h).symm⟩
      · split at h
        · next hv => exact .inr ⟨.date, hv, (Except.ok.inj h).symm⟩
        · split at h
          · next hv => exact .inr ⟨.time, hv, (Except.ok.inj h).symm⟩
          · cases h
  · rintro (⟨kind, hv, rfl⟩ | ⟨kind, hv, rfl⟩) <;> cases kind <;>
      simp [acceptType, hv, ChoiceKind.keyword, ArgumentKind.keyword]

/-! ## Steps -/

/-- Some branch is `other` if and only if the key is among the keys. -/
private theorem any_isOther_iff (choice : OpenChoice) :
    choice.branches.any Branch.isOther = true ↔ Key.other ∈ keysOf choice := by
  simp [keysOf, Branch.isOther, List.any_eq_true]

variable {options : ReadingOptions} {source : List Char}

/-- A token that the reader takes is taken by a rule (`Step`), and not too deep. -/
theorem step_of_eq_ok {s s' : State} {t : Token} (h : Message.step options source s t = .ok s') :
    s.outer.length ≤ options.limit.toNat ∧ Step options.known source s t s' := by
  obtain ⟨nodes, stage, outer⟩ := s
  unfold Message.step at h
  by_cases hdepth : options.limit.toNat < outer.length
  · simp [hdepth, failAt] at h
  · refine ⟨Nat.not_lt.1 hdepth, ?_⟩
    simp only [hdepth, if_false] at h
    -- most pairs of a stage and a kind are refused, and many others leave no choice
    cases stage <;> cases hk : t.kind <;> simp only [hk] at h <;> try cases h
    case nodes.text.refl => exact .text hk
    case nodes.openBrace.refl => exact .brace hk
    case nodes.closeBrace =>
      cases outer with
      | nil => cases h
      | cons b outer =>
        cases h
        exact .endBranch hk
    case opened.identifier start =>
      split at h
      · next hname =>
        cases h
        exact .name ((isName_iff t).1 hname)
      · cases h
    case named.closeBrace.refl head =>
      rw [appendReference_eq_push]
      exact .reference hk
    case named.comma.refl head => exact .nameComma hk
    case typed.identifier head =>
      obtain ⟨stage, hstage, hs⟩ := bind_eq_ok_iff.1 h
      cases hs
      rcases acceptType_eq_ok_iff.1 hstage with ⟨kind, hv, rfl⟩ | ⟨kind, hv, rfl⟩
      · exact .choiceType kind ⟨hk, hv⟩
      · exact .argumentType kind ⟨hk, hv⟩
    case chosen.comma.refl head kind => exact .choiceComma hk
    case branches.closeBrace choice =>
      split at h
      · next hother =>
        cases h
        exact .endChoice hk ((any_isOther_iff choice).1 hother)
      · cases h
    case branches.equals choice =>
      split at h
      · next hkind =>
        cases h
        exact .equals hk hkind
      · cases h
    case branches.number choice =>
      obtain ⟨stage, hstage, hs⟩ := bind_eq_ok_iff.1 h
      cases hs
      obtain ⟨hword, hfresh, rfl⟩ := acceptWord_eq_ok_iff.1 hstage
      exact .wordKey (.inr hk) hword hfresh
    case branches.identifier choice =>
      obtain ⟨stage, hstage, hs⟩ := bind_eq_ok_iff.1 h
      cases hs
      obtain ⟨hword, hfresh, rfl⟩ := acceptWord_eq_ok_iff.1 hstage
      exact .wordKey (.inl hk) hword hfresh
    case exactKey.number choice keyStart =>
      obtain ⟨stage, hstage, hs⟩ := bind_eq_ok_iff.1 h
      cases hs
      obtain ⟨hdigits, hfresh, rfl⟩ := acceptNumber_eq_ok_iff.1 hstage
      rw [String.length_toList] at hdigits
      exact .numberKey hk hdigits hfresh
    case keyed.openBrace.refl choice key keyStart => exact .openBranch hk
    case argument.closeBrace.refl head kind => exact .endArgument hk
    case argument.comma.refl head kind => exact .formatComma hk
    case format.identifier.refl head kind => exact .format hk
    case formatted.closeBrace.refl head kind skeleton => exact .endFormat hk

/-- A token that a rule allows is taken (`step`), if it is not too deep. -/
theorem Step.eq_ok {s s' : State} {t : Token} (h : Step options.known source s t s')
    (hdepth : s.outer.length ≤ options.limit.toNat) :
    Message.step options source s t = .ok s' := by
  have hle := Nat.not_lt.2 hdepth
  unfold Message.step
  -- One case for each rule: the match of the reader goes the same way.
  cases h with
  | text ht => simp only [hle, if_false, ht]; rfl
  | brace ht => simp only [hle, if_false, ht]
  | endBranch ht => simp only [hle, if_false, ht]
  | name ht => simp only [hle, if_false, ht.1, (isName_iff _).2 ht, if_true]
  | reference ht => simp only [hle, if_false, ht, appendReference_eq_push]
  | nameComma ht => simp only [hle, if_false, ht]
  | choiceType kind ht =>
    simp only [hle, if_false, ht.1, acceptType_eq_ok_iff.2 (.inl ⟨kind, ht.2, rfl⟩), Except.bind]
  | argumentType kind ht =>
    simp only [hle, if_false, ht.1, acceptType_eq_ok_iff.2 (.inr ⟨kind, ht.2, rfl⟩), Except.bind]
  | choiceComma ht => simp only [hle, if_false, ht]
  | endChoice ht hother =>
    simp only [hle, if_false, ht, (any_isOther_iff _).2 hother, if_true]
  | equals ht hkind => simp only [hle, if_false, ht, hkind, if_true]
  | wordKey ht hword hfresh =>
    have haccept := acceptWord_eq_ok_iff.2 ⟨hword, hfresh, rfl⟩
    rcases ht with ht | ht <;> simp only [hle, if_false, ht, haccept, Except.bind]
  | numberKey ht hdigits hfresh =>
    rw [← String.length_toList] at hdigits
    simp only [hle, if_false, ht, acceptNumber_eq_ok_iff.2 ⟨hdigits, hfresh, rfl⟩, Except.bind]
  | openBranch ht => simp only [hle, if_false, ht]
  | endArgument ht => simp only [hle, if_false, ht]
  | formatComma ht => simp only [hle, if_false, ht]
  | format ht => simp only [hle, if_false, ht]
  | endFormat ht => simp only [hle, if_false, ht]

/-! ## Several steps -/

/-- A token that a rule allows is passed (`steps`). -/
theorem steps_cons {s s' : State} {t : Token} (h : Step options.known source s t s')
    (hdepth : s.outer.length ≤ options.limit.toNat) (rest : List Token) :
    steps options source s (t :: rest) = steps options source s' rest := by
  rw [steps, h.eq_ok hdepth]

/-- Tokens that the reader takes are taken one after the other (`steps`). -/
theorem exists_of_steps_cons {s s' : State} {t : Token} {rest : List Token}
    (h : steps options source s (t :: rest) = .ok s') :
    ∃ s₁, Message.step options source s t = .ok s₁ ∧ steps options source s₁ rest = .ok s' := by
  rw [steps] at h
  cases hs : Message.step options source s t with
  | error e => simp [hs] at h
  | ok s₁ => exact ⟨s₁, rfl, by simpa [hs] using h⟩

end Parlance.Grammar
