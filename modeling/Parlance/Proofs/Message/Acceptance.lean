import Parlance.Proofs.Message.Completeness
import Parlance.Proofs.Message.Refusing
import Parlance.Proofs.Message.Soundness
import Parlance.Proofs.Message.Unambiguity

/-!
# The reader of messages accepts its grammar

A text whose exact keys have no more digits than an integer may has a message exactly when its
tokens have a derivation, which is then the only one, and its message is the one of that derivation;
any other text is refused by a fault (`parse_eq_ok_iff_derives`).

The one refusal that is no fault is that of an exact key with too many digits. It can occur only
after an equals sign (`steps_ne_oversized`), and tokens that are accepted hold no such key
(`fitsDigits_of_ofTokens`).
-/

namespace Parlance.Grammar

open Parlance.Message Parlance.Number

/-! ## Exact keys with too many digits -/

/-- Tokens that are all short enough fit `digitLimit`. -/
theorem fitsDigits_of_forall {tokens : List Token}
    (h : ∀ t ∈ tokens, t.value.length ≤ digitLimit) : FitsDigits tokens :=
  fun _ n hen _ _ => h n (hen.subset (by simp))

/-- The first token fits (`FitsDigits`), whatever follows. -/
theorem FitsDigits.head {t : Token} {rest : List Token} (h : FitsDigits (t :: rest))
    (ht : t.kind = .equals) : ∀ n ∈ rest.head?, n.kind = .number → n.value.length ≤ digitLimit := by
  intro n hn hkind
  cases rest with
  | nil => cases hn
  | cons m more =>
    obtain rfl : m = n := by simpa using hn
    exact h t m ⟨[], more, rfl⟩ ht hkind

/-- Tokens fit (`FitsDigits`) if the first one does and the rest does. -/
theorem fitsDigits_cons {t : Token} {rest : List Token}
    (hhead : t.kind = .equals →
      ∀ n ∈ rest.head?, n.kind = .number → n.value.length ≤ digitLimit)
    (hrest : FitsDigits rest) : FitsDigits (t :: rest) := by
  intro e n hen he hn
  rcases List.infix_cons_iff.1 hen with hfirst | hlater
  · obtain ⟨more, hmore⟩ := hfirst
    obtain ⟨rfl, rfl⟩ := List.cons.inj hmore
    exact hhead he n (by simp) hn
  · exact hrest e n hlater he hn

/-- Whether a state looks for the number of an exact key. -/
def AtNumber (s : State) : Prop := ∃ choice keyStart, s.stage = .exactKey choice keyStart

variable {options : ReadingOptions} {known : Option (List String)} {source : List Char}

/-- The reader looks for the number (`AtNumber`) of an exact key exactly after an equals sign. -/
theorem Step.atNumber_iff {s s' : State} {t : Token} (h : Step known source s t s') :
    AtNumber s' ↔ t.kind = .equals := by
  cases h with
  | equals ht hkind => exact ⟨fun _ => ht, fun _ => ⟨_, _, rfl⟩⟩
  | name ht | choiceType kind ht | argumentType kind ht => simp [AtNumber, ht.1]
  | wordKey ht hword hfresh => rcases ht with ht | ht <;> simp [AtNumber, ht]
  | _ => simp [AtNumber, *]

/-- A number that the reader takes for an exact key has no more digits than an integer may
(`digitLimit`). -/
theorem Step.length_le {s s' : State} {t : Token} (h : Step known source s t s')
    (hs : AtNumber s) : t.value.length ≤ digitLimit := by
  obtain ⟨choice, keyStart, hstage⟩ := hs
  cases h <;> first | exact ‹_ ≤ digitLimit› | cases hstage

/-- Only the number of an exact key can have too many digits (`oversizedNumber`). -/
private theorem step_oversized {s : State} {t : Token} {digits : Nat}
    (h : Message.step options source s t = .error (.oversizedNumber digits)) :
    AtNumber s ∧ t.kind = .number ∧ digitLimit < t.value.length := by
  obtain ⟨-, hat, hkind, hlong, -⟩ := step_eq_oversized_iff.1 h
  exact ⟨hat, hkind, hlong⟩

/-- Tokens of which no exact key has too many digits are never refused for having one
(`oversizedNumber`). -/
theorem steps_ne_oversized {s : State} {tokens : List Token} {digits : Nat}
    (hfits : FitsDigits tokens)
    (hs : AtNumber s → ∀ n ∈ tokens.head?, n.kind = .number → n.value.length ≤ digitLimit) :
    steps options source s tokens ≠ .error (.oversizedNumber digits) := by
  induction tokens generalizing s with
  | nil =>
    rw [steps]
    intro h
    cases h
  | cons t rest ih =>
    intro h
    rw [steps] at h
    cases hstep : Message.step options source s t with
    | error e =>
      simp only [hstep, Except.error.injEq] at h
      obtain ⟨hat, hkind, hlong⟩ := step_oversized (h ▸ hstep)
      have hshort := hs hat t rfl hkind
      omega
    | ok s₁ =>
      simp only [hstep] at h
      -- a state that looks for a number has been reached by an equals sign, and `hfits` bounds what
      -- comes next
      refine ih (hfits.of_part (List.suffix_cons t rest).isInfix) (fun hat => ?_) h
      exact hfits.head ((step_of_eq_ok hstep).2.atNumber_iff.1 hat)

/-- Tokens that are accepted (`steps`) hold no exact key with too many digits. -/
private theorem fitsDigits_of_steps {s s' : State} {tokens : List Token}
    (h : steps options source s tokens = .ok s') : FitsDigits tokens := by
  induction tokens generalizing s with
  | nil => exact fitsDigits_of_forall (by simp)
  | cons t rest ih =>
    obtain ⟨s₁, hstep, hrest⟩ := exists_of_steps_cons h
    refine fitsDigits_cons (fun hequals n hn _ => ?_) (ih hrest)
    -- after an equals sign the reader checks the digits of the next token itself
    have hat := (step_of_eq_ok hstep).2.atNumber_iff.2 hequals
    cases rest with
    | nil => cases hn
    | cons m more =>
      obtain rfl : m = n := by simpa using hn
      obtain ⟨s₂, hnext, -⟩ := exists_of_steps_cons hrest
      exact (step_of_eq_ok hnext).2.length_le hat

/-! ## Whole texts -/

/-- Tokens that make a message fit `digitLimit`. -/
theorem fitsDigits_of_ofTokens {tokens : List Token} {m : Message}
    (h : ofTokens options source tokens = .ok m) : FitsDigits tokens := by
  rw [ofTokens] at h
  obtain ⟨s, hsteps, -⟩ := bind_eq_ok_iff.1 h
  exact fitsDigits_of_steps hsteps

/-- Tokens that fit (`FitsDigits`) are not refused for too many digits. -/
private theorem ofTokens_ne_oversized {tokens : List Token} {digits : Nat}
    (hfits : FitsDigits tokens) :
    ofTokens options source tokens ≠ .error (.oversizedNumber digits) := by
  intro h
  rw [ofTokens] at h
  cases hsteps : steps options source State.start tokens with
  | error e =>
    simp only [hsteps, Except.bind, Except.error.injEq] at h
    refine steps_ne_oversized hfits ?_ (h ▸ hsteps)
    -- At the start no number is looked for.
    rintro ⟨choice, keyStart, hstage⟩
    cases hstage
  | ok s =>
    simp only [hsteps, Except.bind, finish] at h
    repeat' split at h
    all_goals cases h

/-- The tokens (`tokenize`) of a text are those that are read and the one at the end. -/
theorem tokenize_eq_ok_iff {q : Quoting} {text : String} {tokens : List Token} :
    tokenize q text = .ok tokens ↔
      ∃ ts, Token.ofText q text = .ok ts ∧ tokens = ts ++ [Token.ending text.length] := by
  rw [tokenize]
  cases Token.ofText q text <;> simp [Except.map, eq_comm]

/-- The tokens of a derivation (`Derives`) are its leaves and the one at the end. -/
theorem derives_append_ending {limit length : Nat} {ts : List Token} {items : List Item} :
    Derives limit (ts ++ [Token.ending length]) items ↔
      ValidItems items ∧ nestingOfItems items ≤ limit ∧ leavesOfItems items = ts := by
  constructor
  · intro h
    obtain ⟨e, -, heq⟩ := h.leaves
    exact ⟨h.valid, h.nesting_le, (List.append_inj_left' heq rfl).symm⟩
  · rintro ⟨hvalid, hnesting, rfl⟩
    exact ⟨hvalid, hnesting, _, rfl, rfl⟩

/-- A text that is accepted has a derivation (`Derives`), and its message is the one of the
derivation. -/
theorem derives_of_parse {text : String} {m : Message} (h : parse options text = .ok m) :
    ∃ tokens items, tokenize options.quoting text = .ok tokens ∧
      Derives options.limit.toNat tokens items ∧
      m = messageOf (referenceNode options.known text.toList) items := by
  rw [parse] at h
  cases hscan : Token.ofText options.quoting text with
  | error f => simp [hscan] at h
  | ok ts =>
    simp only [hscan] at h
    obtain ⟨items, hvalid, hnesting, hleaves, hm⟩ :=
      derivation_of_ofTokens (Token.wordSound_of_scan _ _ _ _ _ ts hscan) h
    exact ⟨_, items, tokenize_eq_ok_iff.2 ⟨ts, hscan, rfl⟩,
      derives_append_ending.2 ⟨hvalid, hnesting, hleaves⟩, hm⟩

/-- A text that has a derivation (`Derives`) is accepted. -/
theorem parse_of_derives {text : String} {tokens : List Token} {items : List Item}
    (htokens : tokenize options.quoting text = .ok tokens) (hfits : FitsDigits tokens)
    (h : Derives options.limit.toNat tokens items) :
    parse options text = .ok (messageOf (referenceNode options.known text.toList) items) := by
  obtain ⟨ts, hscan, rfl⟩ := tokenize_eq_ok_iff.1 htokens
  obtain ⟨hvalid, hnesting, rfl⟩ := derives_append_ending.1 h
  rw [parse, hscan]
  exact ofTokens_of_derivation hvalid hnesting
    (hfits.of_part (List.prefix_append _ _).isInfix)

/-- A text whose tokens fit (`FitsDigits`) is not refused for too many digits. -/
theorem parse_ne_oversized {text : String} {digits : Nat}
    (hfits : ∀ tokens, tokenize options.quoting text = .ok tokens → FitsDigits tokens) :
    parse options text ≠ .error (.oversizedNumber digits) := by
  intro h
  rw [parse] at h
  cases hscan : Token.ofText options.quoting text with
  | error f => simp [hscan] at h
  | ok ts =>
    simp only [hscan] at h
    have htokens := tokenize_eq_ok_iff.2 ⟨ts, hscan, rfl⟩
    exact ofTokens_ne_oversized ((hfits _ htokens).of_part (List.prefix_append _ _).isInfix) h

/-- A text has a message exactly when its tokens have a derivation (`Derives`), the message is that
of the derivation, there is one derivation at most, and any other text is refused by a fault. -/
theorem parse_eq_ok_iff_derives (q : Quoting) (text : String)
    (hfits : ∀ tokens, tokenize q text = .ok tokens → FitsDigits tokens) :
    (∀ m, parse ⟨q, none, ReadingOptions.defaultLimit⟩ text = .ok m ↔
      ∃ tokens items, tokenize q text = .ok tokens ∧ Derives 32 tokens items ∧
        m = messageOf Node.reference items) ∧
    (∀ tokens items items', tokenize q text = .ok tokens → Derives 32 tokens items →
      Derives 32 tokens items' → items = items') ∧
    ((¬ ∃ tokens items, tokenize q text = .ok tokens ∧ Derives 32 tokens items) →
      ∃ f, parse ⟨q, none, ReadingOptions.defaultLimit⟩ text = .error (.fault f)) := by
  refine ⟨fun m => ⟨derives_of_parse, ?_⟩, fun _ _ _ _ h h' => derives_unique h h', fun hnone => ?_⟩
  · rintro ⟨tokens, items, htokens, hderives, rfl⟩
    exact parse_of_derives htokens (hfits tokens htokens) hderives
  · cases hparse : parse ⟨q, none, ReadingOptions.defaultLimit⟩ text with
    | ok m =>
      obtain ⟨tokens, items, htokens, hderives, -⟩ := derives_of_parse hparse
      exact absurd ⟨tokens, items, htokens, hderives⟩ hnone
    | error e =>
      cases e with
      | fault f => exact ⟨f, rfl⟩
      -- numbers that fit are never refused for their length
      | oversizedNumber digits => exact absurd hparse (parse_ne_oversized hfits)

/-- An exact key with a leading zero (`Key.exact`) and a nested reference, after quoted text. -/
theorem parse_eq_ok_iff_derives_plural :
    (∀ tokens, tokenize ⟨true, "'"⟩ "'\x7b'{n,plural,=07{b}other{c{n}}}" = .ok tokens →
      FitsDigits tokens) ∧
    ∃ tokens items, tokenize ⟨true, "'"⟩ "'\x7b'{n,plural,=07{b}other{c{n}}}" = .ok tokens ∧
      Derives 32 tokens items ∧
      [.text "\x7b" ⟨0, 3⟩, .choice .plural "n"
        [.mk (.exact 7) [.text "b" ⟨17, 18⟩] ⟨13, 19⟩,
         .mk .other [.text "c" ⟨25, 26⟩, .reference "n" ⟨26, 29⟩] ⟨19, 30⟩] ⟨3, 31⟩] =
        messageOf Node.reference items := by
  have hfits : ∀ tokens, tokenize ⟨true, "'"⟩ "'\x7b'{n,plural,=07{b}other{c{n}}}" = .ok tokens →
      FitsDigits tokens := by
    have hshort : (tokenize ⟨true, "'"⟩ "'\x7b'{n,plural,=07{b}other{c{n}}}").toOption.all
        (·.all (·.value.length ≤ digitLimit)) = true := by decide +kernel
    intro tokens htokens
    rw [htokens] at hshort
    exact fitsDigits_of_forall (by simpa [Except.toOption] using hshort)
  exact ⟨hfits, ((parse_eq_ok_iff_derives _ _ hfits).1 _).1 (by decide +kernel)⟩

end Parlance.Grammar
