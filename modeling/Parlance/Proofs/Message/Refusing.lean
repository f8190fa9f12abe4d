import Parlance.Proofs.Message.Stepping

/-!
# What the reader of messages refuses

`Refusal` lists why the reader stops at a token. It answers nothing but one of these in the place of
a state (`refusal_of_eq_error`), and does so at the first token that it does not take
(`exists_of_steps_eq_error`, `parse_eq_error_cases`). Only one refusal is no fault: the number of
an exact key has too many digits (`step_eq_oversized_iff`).
-/

namespace Parlance.Grammar

open Parlance.Message Parlance.Number

/-- Why the reader stops at a token. -/
inductive Refusal (limit : Int) (s : State) (t : Token) : ParseFailure → Prop where
  | tooDeep (hdepth : limit.toNat < s.outer.length) :
    Refusal limit s t (.fault ⟨.tooDeep limit, t.start, t.start⟩)
  | unexpected : Refusal limit s t (.fault ⟨.unexpected s.stage.expected t.value, t.start, t.start⟩)
  | unknownType {head} (hstage : s.stage = .typed head) :
    Refusal limit s t (.fault ⟨.unknownType t.value, t.start, t.start⟩)
  | unknownCategory {choice} (hstage : s.stage = .branches choice) :
    Refusal limit s t (.fault ⟨.unknownCategory t.value, t.start, t.start⟩)
  | duplicateWord {choice} (hstage : s.stage = .branches choice) :
    Refusal limit s t (.fault ⟨.duplicateBranch (.word t.value), t.start, t.start⟩)
  | duplicateNumber {choice keyStart} (hstage : s.stage = .exactKey choice keyStart) :
    Refusal limit s t
      (.fault ⟨.duplicateBranch (.exact ((ofDigits? t.value.toList).getD 0)), keyStart, keyStart⟩)
  | missingOther {choice} (hstage : s.stage = .branches choice) :
    Refusal limit s t
      (.fault ⟨.missingOther choice.kind choice.head.name, choice.head.start, choice.head.start⟩)
  | oversized {choice keyStart} (hstage : s.stage = .exactKey choice keyStart)
      (hkind : t.kind = .number) (hlong : digitLimit < t.value.length) :
    Refusal limit s t (.oversizedNumber t.value.length)

/-- What is unexpected (`Reason.unexpected`) is the token that the reader looks at. -/
theorem Refusal.eq_unexpected {limit : Int} {s : State} {t : Token} {expected : List Expectation}
    {found : String} {located index : Nat}
    (h : Refusal limit s t (.fault ⟨.unexpected expected found, located, index⟩)) :
    expected = s.stage.expected ∧ found = t.value ∧ located = t.start ∧ index = t.start := by
  cases h with
  | unexpected => exact ⟨rfl, rfl, rfl, rfl⟩

/-! ## Keys and types -/

/-- A key is refused (`acceptKey`) for being there already, and for nothing else. -/
private theorem acceptKey_eq_error {choice : OpenChoice} {key : Key} {keyStart : Nat}
    {e : ParseFailure} (h : acceptKey choice key keyStart = .error e) :
    e = .fault ⟨.duplicateBranch key, keyStart, keyStart⟩ := by
  unfold acceptKey at h
  split at h
  · exact (Except.error.inj h).symm
  · cases h

/-- A word is refused as a key (`acceptWord`) for being no category, or for being there already. -/
private theorem acceptWord_eq_error {choice : OpenChoice} {t : Token} {e : ParseFailure}
    (h : acceptWord choice t = .error e) :
    e = .fault ⟨.unknownCategory t.value, t.start, t.start⟩ ∨
      e = .fault ⟨.duplicateBranch (.word t.value), t.start, t.start⟩ := by
  unfold acceptWord at h
  split at h
  · exact .inl (Except.error.inj h).symm
  · exact .inr (acceptKey_eq_error h)

/-- A number is refused as a key (`acceptNumber`) for its length, or for being there already. -/
private theorem acceptNumber_eq_error {choice : OpenChoice} {keyStart : Nat} {digits : List Char}
    {e : ParseFailure} (h : acceptNumber choice keyStart digits = .error e) :
    (digitLimit < digits.length ∧ e = .oversizedNumber digits.length) ∨
      e = .fault ⟨.duplicateBranch (.exact ((ofDigits? digits).getD 0)), keyStart, keyStart⟩ := by
  unfold acceptNumber at h
  split at h
  · next hlong => exact .inl ⟨hlong, (Except.error.inj h).symm⟩
  · exact .inr (acceptKey_eq_error h)

/-- A type is refused (`acceptType`) for being unknown, and for nothing else. -/
private theorem acceptType_eq_error {head : Head} {t : Token} {e : ParseFailure}
    (h : acceptType head t = .error e) : e = .fault ⟨.unknownType t.value, t.start, t.start⟩ := by
  unfold acceptType at h
  repeat' split at h
  all_goals first | exact (Except.error.inj h).symm | cases h

/-- A stage that is refused (`Stage`) is refused as the state. -/
theorem bind_stage_eq_error {x : Except ParseFailure Stage} {f : Stage → State} {e : ParseFailure}
    (h : (x.bind fun stage => .ok (f stage)) = .error e) : x = .error e := by
  cases x with
  | error e' => exact congrArg Except.error (Except.error.inj h)
  | ok stage => cases h

/-! ## Steps -/

section

variable {options : ReadingOptions} {source : List Char} {s : State} {t : Token} {e : ParseFailure}

/-- The reader refuses (`Refusal`) a token for one of the reasons that there are. -/
theorem refusal_of_eq_error (h : Message.step options source s t = .error e) :
    Refusal options.limit s t e := by
  obtain ⟨nodes, stage, outer⟩ := s
  unfold Message.step at h
  by_cases hdepth : options.limit.toNat < outer.length
  · simp only [hdepth, if_true] at h
    cases h
    exact .tooDeep hdepth
  · simp only [hdepth, if_false] at h
    -- most pairs of a stage and a kind are refused as unexpected or leave no choice
    cases stage <;> cases hk : t.kind <;> simp only [hk] at h
    all_goals try cases h
    all_goals try exact .unexpected
    case nodes.closeBrace =>
      cases outer with
      | nil =>
        cases h
        exact .unexpected
      | cons b outer => cases h
    case opened.identifier start =>
      split at h
      · cases h
      · cases h
        exact .unexpected
    case typed.identifier head =>
      rw [acceptType_eq_error (bind_stage_eq_error h)]
      exact .unknownType rfl
    case branches.closeBrace choice =>
      split at h
      · cases h
      · cases h
        exact .missingOther rfl
    case branches.equals choice =>
      split at h
      · cases h
      · cases h
        exact .unexpected
    case branches.number choice =>
      rcases acceptWord_eq_error (bind_stage_eq_error h) with rfl | rfl
      · exact .unknownCategory rfl
      · exact .duplicateWord rfl
    case branches.identifier choice =>
      rcases acceptWord_eq_error (bind_stage_eq_error h) with rfl | rfl
      · exact .unknownCategory rfl
      · exact .duplicateWord rfl
    case exactKey.number choice keyStart =>
      rcases acceptNumber_eq_error (bind_stage_eq_error h) with ⟨hlong, rfl⟩ | rfl
      · rw [String.length_toList] at hlong ⊢
        exact .oversized rfl hk hlong
      · exact .duplicateNumber rfl

/-- The one refusal that is no fault is that of an exact key with too many digits (`digitLimit`). -/
theorem step_eq_oversized_iff {digits : Nat} :
    Message.step options source s t = .error (.oversizedNumber digits) ↔
      s.outer.length ≤ options.limit.toNat ∧
        (∃ choice keyStart, s.stage = .exactKey choice keyStart) ∧ t.kind = .number ∧
        digitLimit < t.value.length ∧ digits = t.value.length := by
  constructor
  · intro h
    refine ⟨?_, ?_⟩
    · by_contra hdepth
      simp [Message.step, Nat.not_le.1 hdepth, failAt] at h
    · cases refusal_of_eq_error h with
      | oversized hstage hkind hlong => exact ⟨⟨_, _, hstage⟩, hkind, hlong, rfl⟩
  · rintro ⟨hdepth, ⟨choice, keyStart, hstage⟩, hkind, hlong, rfl⟩
    obtain ⟨nodes, stage, outer⟩ := s
    obtain rfl : stage = _ := hstage
    -- The other direction: the depth is no reason to refuse, so the number is looked at.
    have hnumber : acceptNumber choice keyStart t.value.toList =
        .error (.oversizedNumber t.value.length) := by
      rw [acceptNumber, String.length_toList, if_pos hlong]
    simp only [Message.step, Nat.not_lt.2 hdepth, if_false, hkind, hnumber]
    rfl

/-- A token that a rule allows (`Step`) is not refused, unless too many branches stand open. -/
theorem Step.ne_error {s' : State} (h : Step options.known source s t s')
    (hdepth : s.outer.length ≤ options.limit.toNat) :
    Message.step options source s t ≠ .error e := by
  rw [h.eq_ok hdepth]
  exact nofun

/-! ## Several steps -/

/-- Tokens are refused (`steps`) at the first one that the reader does not take. -/
theorem exists_of_steps_eq_error {tokens : List Token}
    (h : steps options source s tokens = .error e) :
    ∃ before u after s', tokens = before ++ u :: after ∧
      steps options source s before = .ok s' ∧ Message.step options source s' u = .error e := by
  induction tokens generalizing s with
  | nil => cases h
  | cons t rest ih =>
    rw [steps] at h
    cases hstep : Message.step options source s t with
    | error e' =>
      simp only [hstep, Except.error.injEq] at h
      exact ⟨[], t, rest, s, rfl, rfl, h ▸ hstep⟩
    | ok s₁ =>
      simp only [hstep] at h
      -- The token is refused further on, by the state that this one leads to.
      obtain ⟨before, u, after, s', rfl, hbefore, hu⟩ := ih h
      exact ⟨t :: before, u, after, s', rfl, by rwa [steps, hstep], hu⟩

/-- A token that is refused (`step`) is refused whatever comes after it. -/
private theorem steps_append_of_error {before : List Token} {s' : State}
    (hbefore : steps options source s before = .ok s')
    (hstep : Message.step options source s' t = .error e) (after : List Token) :
    steps options source s (before ++ t :: after) = .error e := by
  induction before generalizing s with
  | nil =>
    cases hbefore
    rw [List.nil_append, steps, hstep]
  | cons u before ih =>
    obtain ⟨s₁, hu, hrest⟩ := exists_of_steps_cons hbefore
    rw [List.cons_append, steps, hu]
    exact ih hrest

/-- A message that does not end where the text ends (`finish`) is cut off or nested too deeply. -/
theorem finish_eq_error {length : Nat} (h : finish options s length = .error e) :
    e = .fault ⟨.tooDeep options.limit, length, length⟩ ∨
      ∃ expected, e = .fault ⟨.endsEarly expected, length, length⟩ := by
  unfold finish at h
  split at h
  · exact .inl (Except.error.inj h).symm
  · split at h
    · cases h
    · exact .inr ⟨_, (Except.error.inj h).symm⟩
    · exact .inr ⟨_, (Except.error.inj h).symm⟩

end

/-! ## Whole texts -/

section

variable {options : ReadingOptions} {text : String} {e : ParseFailure}

/-- A text is refused (`parse`) by the scanner, at a token, or at its end. -/
theorem parse_eq_error_cases (h : parse options text = .error e) :
    (∃ f, Token.ofText options.quoting text = .error f ∧ e = .fault f) ∨
      (∃ before t after s, Token.ofText options.quoting text = .ok (before ++ t :: after) ∧
        steps options text.toList State.start before = .ok s ∧
        Message.step options text.toList s t = .error e) ∨
      ∃ s, finish options s text.length = .error e := by
  rw [parse] at h
  cases htokens : Token.ofText options.quoting text with
  | error f =>
    simp only [htokens, Except.error.injEq] at h
    exact .inl ⟨f, rfl, h.symm⟩
  | ok tokens =>
    simp only [htokens, ofTokens] at h
    cases hsteps : steps options text.toList State.start tokens with
    | ok s =>
      simp only [hsteps, Except.bind, String.length_toList] at h
      exact .inr (.inr ⟨s, h⟩)
    | error e' =>
      simp only [hsteps, Except.bind, Except.error.injEq] at h
      -- the first token that is refused
      obtain ⟨before, t, after, s, rfl, hbefore, hstep⟩ := exists_of_steps_eq_error (h ▸ hsteps)
      exact .inr (.inl ⟨before, t, after, s, rfl, hbefore, hstep⟩)

/-- A text is refused (`parse`) where a token of it is. -/
theorem parse_of_step_eq_error {before after : List Token} {t : Token} {s : State}
    (htokens : Token.ofText options.quoting text = .ok (before ++ t :: after))
    (hsteps : steps options text.toList State.start before = .ok s)
    (hstep : Message.step options text.toList s t = .error e) : parse options text = .error e := by
  simp only [parse, htokens, ofTokens, steps_append_of_error hsteps hstep]
  rfl

end

end Parlance.Grammar
