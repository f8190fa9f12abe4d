import Parlance.Proofs.Message.Cutting
import Parlance.Proofs.Message.Refusing

/-!
# The modes of the scanner and of the reader

The scanner goes by a number of open braces, and the reader by what stands open around it. At every
token they agree (`level_of_steps`, `exists_cut_of_steps`): the scanner makes the token with as many
braces open as the reader that looks at it has around it. So a reader between the parts of a message
meets text, a brace or the end, and a reader in an expression never meets text (`modes_agree`).
Between the parts of a message it can therefore refuse one thing only: a brace that closes none,
which is a token only with quoting (`parse_eq_unexpected_nodes_iff`, `MeetsStrayBrace.quoted`).
-/

namespace Parlance.Grammar

open Parlance.Message Parlance.Token

variable {options : ReadingOptions} {source : List Char}

/-- The reader stays where the braces of the tokens lead it (`levelThrough`). -/
theorem level_of_steps {s s' : State} {tokens : List Token}
    (h : steps options source s tokens = .ok s') : level s' = levelThrough (level s) tokens := by
  induction tokens generalizing s with
  | nil =>
    cases h
    rfl
  | cons t rest ih =>
    obtain ⟨s₁, hstep, hrest⟩ := exists_of_steps_cons h
    rw [ih hrest, level_step (step_of_eq_ok hstep).2, levelThrough_cons]

/-- Where the reader is after some tokens of a text, the scanner has made them (`scan`), and the
braces that the reader has around it are open in the scanner. -/
private theorem exists_scan_of_steps {text : String} {before after : List Token} {s : State}
    (htokens : ofText options.quoting text = .ok (before ++ after))
    (hsteps : steps options source State.start before = .ok s) :
    ∃ n ≤ text.length, scan options.quoting 0 (level s) n (text.toList.drop n) = .ok after := by
  obtain ⟨n, hn, hscan, -⟩ := exists_scan_of_append htokens
  rw [Nat.zero_add] at hscan
  rw [level_of_steps hsteps]
  exact ⟨n, String.length_toList ▸ hn, hscan⟩

/-- The token that the reader looks at is cut off the text (`Cut`) where as many braces are open as
the reader has around it. -/
theorem exists_cut_of_steps {text : String} {before after : List Token} {t : Token} {s : State}
    (htokens : ofText options.quoting text = .ok (before ++ t :: after))
    (hsteps : steps options source State.start before = .ok s) :
    ∃ n, Cut options.quoting (level s) n (text.toList.drop n) t after := by
  obtain ⟨n, -, hscan⟩ := exists_scan_of_steps htokens hsteps
  exact ⟨n, cut_of_scan hscan⟩

/-- A token (`tokenize`) of a text is the one at the end, or one that the scanner makes. -/
private theorem tokenize_eq_append_cons {q : Quoting} {text : String} {before after : List Token}
    {t : Token} (h : tokenize q text = .ok (before ++ t :: after)) :
    (ofText q text = .ok (before ++ []) ∧ t = ending text.length ∧ after = []) ∨
      ∃ more, ofText q text = .ok (before ++ t :: more) ∧ after = more ++ [ending text.length] := by
  obtain ⟨ts, hts, heq⟩ := tokenize_eq_ok_iff.1 h
  rcases List.eq_nil_or_concat' after with rfl | ⟨more, last, rfl⟩
  · obtain ⟨rfl, hlast⟩ := List.append_inj' heq rfl
    exact .inl ⟨by rwa [List.append_nil], List.singleton_inj.1 hlast, rfl⟩
  · rw [← List.cons_append, ← List.append_assoc] at heq
    obtain ⟨rfl, hlast⟩ := List.append_inj' heq rfl
    exact .inr ⟨more, hts, by rw [List.singleton_inj.1 hlast]⟩

/-! ## Braces that close none -/

/-- Whether the reader comes to a closing brace, at an offset of the text, when all braces before it
have been closed. -/
def MeetsStrayBrace (options : ReadingOptions) (text : String) (index : Nat) : Prop :=
  ∃ before t after s, ofText options.quoting text = .ok (before ++ t :: after) ∧
    steps options text.toList State.start before = .ok s ∧ levelThrough 0 before = 0 ∧
    t.kind = .closeBrace ∧ t.start = index

/-- Outside of every expression and branch no brace is open (`State.level`). -/
private theorem eq_nodes_of_level_eq_zero {s : State} (h : level s = 0) :
    s.stage = .nodes ∧ s.outer = [] := by
  have hstage : s.stage = .nodes := stage_eq_nodes_iff.2 (by omega)
  refine ⟨hstage, List.length_eq_zero_iff.1 ?_⟩
  simp only [level, hstage] at h
  omega

/-- A brace that the reader refuses between the parts of a message (`Reason.unexpected`) has none to
close. -/
theorem level_eq_zero_of_unexpected {s : State} {t : Token} {q : Quoting}
    (hstage : s.stage = .nodes) (hfits : Fits q (level s) t.kind)
    (h : Message.step options source s t =
      .error (.fault ⟨.unexpected s.stage.expected t.value, t.start, t.start⟩)) :
    t.kind = .closeBrace ∧ level s = 0 := by
  obtain ⟨nodes, stage, outer⟩ := s
  obtain rfl : stage = .nodes := hstage
  have hdepth : outer.length ≤ options.limit.toNat := by
    by_contra hdepth
    simp [Message.step, Nat.not_le.1 hdepth, failAt] at h
  rw [Fits, if_pos (stage_eq_nodes_iff.1 rfl)] at hfits
  -- Between the parts a text and an opening brace are taken, and so is a closing one inside of a
  -- branch.
  rcases hfits with ht | ht | ⟨ht, -⟩
  · exact absurd h ((Step.text ht).ne_error hdepth)
  · exact absurd h ((Step.brace ht).ne_error hdepth)
  · cases outer with
    | nil => exact ⟨ht, rfl⟩
    | cons b outer => exact absurd h ((Step.endBranch ht).ne_error hdepth)

/-- A brace that has none to close is refused (`step`). -/
private theorem step_of_stray {s : State} {t : Token} (hlevel : level s = 0)
    (ht : t.kind = .closeBrace) : Message.step options source s t =
      .error (.fault ⟨.unexpected [.text, .openBrace] t.value, t.start, t.start⟩) := by
  obtain ⟨nodes, stage, outer⟩ := s
  obtain ⟨hstage, houter⟩ := eq_nodes_of_level_eq_zero hlevel
  obtain rfl : stage = .nodes := hstage
  obtain rfl : outer = [] := houter
  simp only [Message.step, List.length_nil, Nat.not_lt_zero, if_false, ht]
  rfl

/-- The only stage in which text or an opening brace is expected (`expected`) is between the parts
of a message. -/
private theorem eq_nodes_of_expected {stage : Stage} (h : stage.expected = [.text, .openBrace]) :
    stage = .nodes := by
  cases stage <;> first | rfl | (simp [Stage.expected] at h)

/-- The source of a brace that has been cut off (`Cut`) is a brace. -/
theorem Cut.getElem?_of_closeBrace {q : Quoting} {depth pos : Nat} {text : List Char} {t : Token}
    {rest : List Token} (h : Cut q depth pos text t rest) (ht : t.kind = .closeBrace) :
    text[t.start - pos]? = some '\x7d' := by
  have hvalue := h.value_eq (by simp [ht])
  rw [h.value_of_closeBrace ht] at hvalue
  have hfirst : ((text.drop (t.start - pos)).take (t.stop - t.start))[0]? = some '\x7d' := by
    rw [← hvalue]
    rfl
  rw [List.getElem?_take, List.getElem?_drop, Nat.add_zero] at hfirst
  split at hfirst
  · exact hfirst
  · cases hfirst

/-- Text or an opening brace is said to be expected just where the reader comes to a brace that has
none to close (`MeetsStrayBrace`). -/
theorem parse_eq_unexpected_nodes_iff {text found : String} {located index : Nat} :
    parse options text = .error (.fault ⟨.unexpected [.text, .openBrace] found, located, index⟩) ↔
      located = index ∧ found = "\x7d" ∧ MeetsStrayBrace options text index := by
  constructor
  · intro h
    rcases parse_eq_error_cases h with
      ⟨f, htokens, hf⟩ | ⟨before, t, after, s, htokens, hbefore, hstep⟩ | ⟨s, hfinish⟩
    · -- the scanner expects something else
      obtain ⟨-, -, other, hreason⟩ := index_lt_of_scan htokens
      rw [ParseFailure.fault.injEq] at hf
      simp [← hf, inExpression] at hreason
    · obtain ⟨n, hcut⟩ := exists_cut_of_steps htokens hbefore
      obtain ⟨hexpected, rfl, rfl, rfl⟩ := (refusal_of_eq_error hstep).eq_unexpected
      obtain ⟨hclose, hlevel⟩ :=
        level_eq_zero_of_unexpected (eq_nodes_of_expected hexpected.symm) hcut.fits
          (hexpected ▸ hstep)
      exact ⟨rfl, hcut.value_of_closeBrace hclose, before, t, after, s, htokens, hbefore,
        (level_of_steps hbefore).symm.trans hlevel, hclose, rfl⟩
    · rcases finish_eq_error hfinish with he | ⟨expected, he⟩ <;> cases he
  · rintro ⟨rfl, rfl, before, t, after, s, htokens, hsteps, hlevel, ht, rfl⟩
    obtain ⟨n, hcut⟩ := exists_cut_of_steps htokens hsteps
    have hrefused : Message.step options text.toList s t = _ :=
      step_of_stray ((level_of_steps hsteps).trans hlevel) ht
    rw [hcut.value_of_closeBrace ht] at hrefused
    exact parse_of_step_eq_error htokens hsteps hrefused

/-- A brace that has none to close stands in the text, and is a token only with quoting (`Quoting`).
-/
theorem MeetsStrayBrace.quoted {text : String} {index : Nat}
    (h : MeetsStrayBrace options text index) :
    options.quoting.enabled = true ∧ text.toList[index]? = some '\x7d' := by
  obtain ⟨before, t, after, s, htokens, hsteps, hlevel, ht, rfl⟩ := h
  obtain ⟨n, hcut⟩ := exists_cut_of_steps htokens hsteps
  have hfits := hcut.fits
  have hchar := hcut.getElem?_of_closeBrace ht
  rw [(level_of_steps hsteps).trans hlevel, ht] at hfits
  rw [List.getElem?_drop, Nat.add_sub_cancel' hcut.pos_le] at hchar
  exact ⟨by simpa [Fits] using hfits, hchar⟩

/-! ## Whole texts -/

/-- The scanner and the reader agree at every token of a text: where the reader looks at a token,
the scanner goes on to make it (`scan`) with as many braces open as the reader has around it, so
that between the parts of a message it is a text, a brace or the end, and in an expression no text.
Hence text or an opening brace is said to be expected just at a closing brace that has none to
close, which there is only with quoting. -/
theorem modes_agree (options : ReadingOptions) (text : String) :
    (∀ before t after s, tokenize options.quoting text = .ok (before ++ t :: after) →
      steps options text.toList State.start before = .ok s →
      (s.stage = .nodes ↔ level s % 2 = 0) ∧
      (∃ n ≤ text.length,
        (scan options.quoting 0 (level s) n (text.toList.drop n)).map (· ++ [ending text.length]) =
          .ok (t :: after)) ∧
      (s.stage = .nodes →
        t.kind = .text ∨ t.kind = .openBrace ∨ t.kind = .closeBrace ∨ t.kind = .endOfMessage) ∧
      (s.stage ≠ .nodes → t.kind ≠ .text)) ∧
    ∀ found located index,
      parse options text =
          .error (.fault ⟨.unexpected [.text, .openBrace] found, located, index⟩) ↔
        located = index ∧ found = "\x7d" ∧ text.toList[index]? = some '\x7d' ∧
          options.quoting.enabled = true ∧ MeetsStrayBrace options text index := by
  refine ⟨fun before t after s htokens hsteps => ?_, fun found located index => ?_⟩
  · -- The ending is no token of the scanner, so it is a case of its own.
    rcases tokenize_eq_append_cons htokens with ⟨hscanned, rfl, rfl⟩ | ⟨more, hscanned, rfl⟩
    · obtain ⟨n, hn, hscan⟩ := exists_scan_of_steps hscanned hsteps
      exact ⟨stage_eq_nodes_iff, ⟨n, hn, by rw [hscan]; rfl⟩, fun _ => .inr (.inr (.inr rfl)),
        fun _ => nofun⟩
    · obtain ⟨n, hn, hscan⟩ := exists_scan_of_steps hscanned hsteps
      have hfits := (cut_of_scan hscan).fits
      refine ⟨stage_eq_nodes_iff, ⟨n, hn, by rw [hscan]; rfl⟩, fun hstage => ?_, fun hstage => ?_⟩
      · rw [Fits, if_pos (stage_eq_nodes_iff.1 hstage)] at hfits
        rcases hfits with ht | ht | ⟨ht, -⟩
        · exact .inl ht
        · exact .inr (.inl ht)
        · exact .inr (.inr (.inl ht))
      · rw [Fits, if_neg (mt stage_eq_nodes_iff.2 hstage)] at hfits
        exact hfits.1
  · -- What is said of the brace besides follows from where the reader meets it.
    rw [parse_eq_unexpected_nodes_iff]
    constructor
    · rintro ⟨hlocated, hfound, hmeets⟩
      exact ⟨hlocated, hfound, hmeets.quoted.2, hmeets.quoted.1, hmeets⟩
    · rintro ⟨hlocated, hfound, -, -, hmeets⟩
      exact ⟨hlocated, hfound, hmeets⟩

/-- In words, with text and an opening brace in the order in which they are expected. -/
example : (Reason.unexpected [.text, .openBrace] "\x7d").message =
    "Expected text or '\x7b' but found '\x7d'" := rfl

/-- A select with a nested reference, and a brace too many. -/
def bracesText : String := "\x7bg,select,other\x7b\x7bn\x7d\x7d\x7d\x7d"

/-- The brace at the end (`bracesText`) has none to close. -/
theorem modes_agree_bracesText :
    parse ⟨⟨true, "'"⟩, none, 32⟩ bracesText =
        .error (.fault ⟨.unexpected [.text, .openBrace] "\x7d", 21, 21⟩) ∧
      MeetsStrayBrace ⟨⟨true, "'"⟩, none, 32⟩ bracesText 21 := by
  have hparse : parse ⟨⟨true, "'"⟩, none, 32⟩ bracesText =
      .error (.fault ⟨.unexpected [.text, .openBrace] "\x7d", 21, 21⟩) := by decide +kernel
  obtain ⟨-, -, -, -, hmeets⟩ :=
    ((modes_agree ⟨⟨true, "'"⟩, none, 32⟩ bracesText).2 _ _ _).1 hparse
  exact ⟨hparse, hmeets⟩

end Parlance.Grammar
