import Mathlib.Data.List.Nodup
import Mathlib.Data.List.Perm.Basic
import Parlance.Proofs.Message.Occurrence
import Parlance.Proofs.Message.Shape

/-!
# Regular messages

What a message that is read is like, wherever one looks in it: names and keys are written as they
have to be, each branch of a choice is found by its key alone, and no two texts are neighbours
(`regular_of_parse`). It is what well-formed messages are like (`regular_of_wellFormed`), with keys
told apart as they are written and as numbers.
-/

namespace Parlance.Grammar

open Parlance.Message Parlance.Number Parlance.Text

/-! ## Branches -/

/-- Whether digits are a number as it is written shortest. -/
structure Canonical (digits : List Char) : Prop where
  ne_nil : digits ≠ []
  isDigit : ∀ c ∈ digits, c.isDigit = true
  no_zero : digits.head? = some '0' → digits = ['0']

/-- Whether a key is written as the keys of a choice are: in a plural a category, or an equals sign
and a number, which is the value of the key, and in a select a word. -/
def KeyWritten : ChoiceKind → Key → Prop
  | .plural, key =>
    (key.value? = none ∧ key.text ∈ pluralCategories) ∨
      ∃ n digits, key.value? = some n ∧ key.text.toList = '=' :: digits ∧ Canonical digits ∧
        ofDigits? digits = some n
  | .select, key => key.value? = none ∧ IsWordText key.text

/-- What the branches of a choice are like. -/
structure RegularBranches (kind : ChoiceKind) (branches : List Branch) : Prop where
  written : ∀ b ∈ branches, KeyWritten kind b.key
  keys : (branches.map (·.key.text)).Nodup
  count_other : (branches.map (·.key.text)).count "other" = 1
  values : (branches.filterMap (·.key.value?)).Nodup
  perm : ∃ b, branches.find? Branch.isOther = some b ∧
    (exactBranches branches ++ wordBranches branches ++ [b]).Perm branches
  cases : kind = .select → exactBranches branches = [] ∧
    wordBranches branches = branches.filter (!·.isOther)

/-- What a node is like, apart from the nodes inside it. -/
def RegularNode : Node → Prop
  | .text _ _ => True
  | .reference name _ => IsNameText name
  | .choice kind name branches _ =>
    IsNameText name ∧ RegularBranches kind branches ∧ ∀ b ∈ branches, Separate b.message
  | .argument name _ _ _ => IsNameText name

/-- Whether no two texts are neighbours in a message, and every node is regular, at any depth. -/
structure Regular (m : Message) : Prop where
  separate : Separate m
  nodes : ∀ n, Within m n → RegularNode n

/-! ## Keys -/

/-- Decimal digits (`decimalDigits`) are canonical: they begin with no needless zero. -/
private theorem canonical_decimalDigits (n : Nat) : Canonical (decimalDigits n) := by
  refine ⟨decimalDigits_ne_nil n, fun c hc => isDigit_of_mem_decimalDigits hc, fun hzero => ?_⟩
  rcases Nat.eq_zero_or_pos n with rfl | hpos
  · rfl
  · exact absurd hzero (head?_decimalDigits hpos)

/-- An exact key (`Key.exact`) is written as an equals sign and its digits. -/
private theorem toList_text_exact (n : Nat) : (Key.exact n).text.toList = '=' :: decimalDigits n :=
    by
  have hdigits : (toString n).toList = decimalDigits n := String.toList_ofList
  rw [Key.text, String.toList_append, hdigits]
  rfl

/-- Keys that fit a choice are written as its keys (`KeyWritten`) are. -/
theorem keyWritten_of_fits {kind : ChoiceKind} {key : Key} (h : KeyFits kind key) :
    KeyWritten kind key := by
  cases kind <;> cases key
  case plural.exact n =>
    exact .inr ⟨n, decimalDigits n, rfl, toList_text_exact n, canonical_decimalDigits n,
      ofDigits?_decimalDigits n⟩
  case plural.word label => exact .inl ⟨rfl, h⟩
  case select.exact => exact h.elim
  case select.word label => exact ⟨rfl, h⟩

/-- No word that fits a choice (`KeyFits`) is written as an exact key is. -/
private theorem text_word_ne_exact {kind : ChoiceKind} {label : String}
    (h : KeyFits kind (.word label)) (n : Nat) : (Key.word label).text ≠ (Key.exact n).text := by
  intro heq
  have htext : label.toList = '=' :: decimalDigits n := by
    rw [← toList_text_exact n, ← heq, Key.text]
  cases kind with
  | plural =>
    -- neither a category nor a word has an equals sign, which an exact key begins with
    have hnot : ∀ w ∈ pluralCategories, w.toList.head? ≠ some '=' := by decide
    exact hnot label h (by rw [htext]; rfl)
  | select =>
    have hword := h.2 '=' (by rw [htext]; exact List.mem_cons_self)
    exact absurd hword (by decide)

/-- Keys that fit a choice (`KeyFits`) differ as they are written. -/
theorem eq_of_text_eq {kind : ChoiceKind} {a b : Key} (ha : KeyFits kind a) (hb : KeyFits kind b)
    (h : a.text = b.text) : a = b := by
  cases a with
  | exact n =>
    cases b with
    | exact n' =>
      have hdigits : decimalDigits n = decimalDigits n' := by
        have hlists := congrArg String.toList h
        rw [toList_text_exact, toList_text_exact] at hlists
        exact (List.cons.inj hlists).2
      -- Digits are read back as their number, so equal digits are of equal numbers.
      have hread := ofDigits?_decimalDigits n
      rw [hdigits, ofDigits?_decimalDigits] at hread
      exact congrArg Key.exact (Option.some.inj hread).symm
    | word label => exact absurd h.symm (text_word_ne_exact hb n)
  | word label =>
    cases b with
    | exact n => exact absurd h (text_word_ne_exact ha n)
    | word label' => exact congrArg Key.word h

/-- Keys with one value (`value?`) are equal. -/
theorem eq_of_value? {a b : Key} {n : Nat} (ha : a.value? = some n) (hb : b.value? = some n) :
    a = b := by
  cases a <;> cases b <;> simp_all [Key.value?]

/-! ## Branches by their keys -/

/-- `Branch.isOther` asks whether the key is `other`. -/
private theorem isOther_iff {b : Branch} : b.isOther = true ↔ b.key = Key.other := by
  rw [Branch.isOther, beq_iff_eq]

/-- The branch `other` is none of an exact key. -/
private theorem isExact_eq_false_of_isOther {b : Branch} (h : b.isOther = true) : b.isExact =
    false := by
  rw [Branch.isExact, isOther_iff.1 h]
  rfl

/-- Every branch is keyed by a number, by a word other than `other`, or by `other`. -/
theorem perm_branches (branches : List Branch) :
    (exactBranches branches ++ wordBranches branches ++ branches.filter Branch.isOther).Perm
      branches := by
  -- The words are those that are not exact and not `other`; together with `other` they are all that
  -- is not exact.
  have hwords : wordBranches branches ++ branches.filter Branch.isOther =
      (branches.filter (!·.isExact)).filter (!·.isOther) ++
        (branches.filter (!·.isExact)).filter (!!·.isOther) := by
    rw [List.filter_filter, List.filter_filter, wordBranches]
    congr 1
    · exact List.filter_congr fun b _ => Bool.and_comm _ _
    · refine List.filter_congr fun b _ => ?_
      cases hb : b.isOther
      · rfl
      · simp [isExact_eq_false_of_isOther hb]
  rw [List.append_assoc, hwords]
  exact ((List.filter_append_perm _ _).append_left _).trans (List.filter_append_perm _ _)

/-- Among branches with distinct keys that include `other`, one has this key. -/
theorem exists_filter_isOther {branches : List Branch} (hkeys : (branches.map Branch.key).Nodup)
    (hother : Key.other ∈ branches.map Branch.key) :
    ∃ b, branches.filter Branch.isOther = [b] := by
  have hnodup : ((branches.filter Branch.isOther).map Branch.key).Nodup :=
    hkeys.sublist (List.filter_sublist.map _)
  have hall : ∀ b ∈ branches.filter Branch.isOther, b.key = Key.other := fun b hb =>
    isOther_iff.1 (List.mem_filter.1 hb).2
  obtain ⟨b, hb, hkey⟩ := List.mem_map.1 hother
  have hmem : b ∈ branches.filter Branch.isOther := List.mem_filter.2 ⟨hb, isOther_iff.2 hkey⟩
  cases hfilter : branches.filter Branch.isOther with
  | nil => simp [hfilter] at hmem
  | cons first rest =>
    cases rest with
    | nil => exact ⟨first, rfl⟩
    | cons second rest =>
      -- two of them would have one key
      rw [hfilter] at hnodup hall
      have hfirst := hall first (by simp)
      have hsecond := hall second (by simp)
      simp [hfirst, hsecond] at hnodup

/-- Branches are well-formed (`WellFormedBranches`) if each one is. -/
private theorem wellFormedBranches_iff {texts : String → Prop} {kind : ChoiceKind}
    {branches : List Branch} :
    WellFormedBranches texts kind branches ↔
      ∀ b ∈ branches, KeyFits kind b.key ∧ WellFormed texts b.message := by
  induction branches with
  | nil => simp
  | cons b rest ih =>
    cases b with
    | mk key message span =>
      rw [wellFormedBranches_cons, ih, List.forall_mem_cons, and_assoc]
      rfl

/-- Branches with fitting, distinct keys that include `other` are regular. -/
theorem regularBranches_of_keys {kind : ChoiceKind} {branches : List Branch}
    (hfits : ∀ b ∈ branches, KeyFits kind b.key) (hkeys : (branches.map Branch.key).Nodup)
    (hother : Key.other ∈ branches.map Branch.key) : RegularBranches kind branches := by
  have hmap : branches.map (·.key.text) = (branches.map Branch.key).map Key.text := by
    rw [List.map_map]
    rfl
  have htexts : (branches.map (·.key.text)).Nodup := by
    rw [hmap]
    refine List.Nodup.map_on (fun a ha b hb heq => ?_) hkeys
    obtain ⟨first, hfirst, rfl⟩ := List.mem_map.1 ha
    obtain ⟨second, hsecond, rfl⟩ := List.mem_map.1 hb
    exact eq_of_text_eq (hfits first hfirst) (hfits second hsecond) heq
  obtain ⟨b, hb⟩ := exists_filter_isOther hkeys hother
  refine ⟨fun b hb => keyWritten_of_fits (hfits b hb), htexts, ?_, ?_, ⟨b, ?_, ?_⟩, fun hkind => ?_⟩
  · refine List.count_eq_one_of_mem htexts ?_
    rw [hmap]
    exact List.mem_map_of_mem hother
  · have hvalues : branches.filterMap (·.key.value?) =
        (branches.map Branch.key).filterMap Key.value? := by
      rw [List.filterMap_map]
      rfl
    rw [hvalues]
    exact List.Nodup.filterMap (fun _ _ _ ha hb => eq_of_value? ha hb) hkeys
  · rw [← List.head?_filter, hb]
    rfl
  · rw [← hb]
    exact perm_branches branches
  · -- no key of a select has a number
    have hwords : ∀ b ∈ branches, b.isExact = false := by
      intro b hb
      have hfit := hfits b hb
      rw [hkind] at hfit
      rw [Branch.isExact, (keyWritten_of_fits hfit).1]
      rfl
    refine ⟨List.filter_eq_nil_iff.2 fun b hb => by simp [hwords b hb], ?_⟩
    exact List.filter_congr fun b hb => by simp [hwords b hb]

/-! ## Messages -/

section

variable {texts : String → Prop}

/-- Nodes are well-formed (`WellFormedNodes`) if each one is. -/
private theorem wellFormedNodes_iff {nodes : List Node} :
    WellFormedNodes texts nodes ↔ ∀ n ∈ nodes, WellFormedNode texts n := by
  induction nodes with
  | nil => simp
  | cons n rest ih => rw [wellFormedNodes_cons, ih, List.forall_mem_cons]

/-- A node of a well-formed (`WellFormedNode`) message is well-formed, at any depth. -/
theorem wellFormedNode_of_within {m : Message} {n : Node} (hn : Within m n)
    (h : WellFormedNodes texts m) : WellFormedNode texts n := by
  induction hn with
  | top hn => exact wellFormedNodes_iff.1 h _ hn
  | inside hchoice hbranch _ ih =>
    have hwell := wellFormedNodes_iff.1 h _ hchoice
    rw [WellFormedNode] at hwell
    exact ih (wellFormedBranches_iff.1 hwell.2.1 _ hbranch).2.1

/-- A well-formed node is regular (`RegularNode`). -/
theorem regularNode_of_wellFormed {n : Node} (h : WellFormedNode texts n) : RegularNode n := by
  cases n with
  | text value span => trivial
  | reference name span =>
    rw [WellFormedNode] at h
    exact h
  | choice kind name branches span =>
    rw [WellFormedNode] at h
    obtain ⟨hname, hbranches, hkeys, hother⟩ := h
    -- the branches are well-formed one by one
    have hall := wellFormedBranches_iff.1 hbranches
    exact ⟨hname, regularBranches_of_keys (fun b hb => (hall b hb).1) hkeys hother,
      fun b hb => (hall b hb).2.2⟩
  | argument name kind skeleton span =>
    rw [WellFormedNode] at h
    exact h.1

/-- A well-formed (`WellFormed`) message is regular at any depth. -/
theorem regular_of_wellFormed {m : Message} (h : WellFormed texts m) : Regular m :=
  ⟨h.2, fun _ hn => regularNode_of_wellFormed (wellFormedNode_of_within hn h.1)⟩

end

/-- A message that is read is regular (`Regular`) at any depth, and its branches are nested at most
32 deep, however the text is quoted and whichever names are placeholders. -/
theorem regular_of_parse {q : Quoting} {known : Option (List String)} {text : String} {m : Message}
    (h : parse ⟨q, known, ReadingOptions.defaultLimit⟩ text = .ok m) :
    Regular m ∧ nestingOfNodes m ≤ 32 := by
  obtain ⟨hwell, hnesting⟩ := wellFormed_of_parse h
  exact ⟨regular_of_wellFormed hwell, hnesting⟩

/-- A plural with an exact key that is written with zeros, and with a select inside of which a name
that is no placeholder stands between texts. -/
def ticketText : String :=
  "\x7bn, plural, =007 \x7bagent\x7d one \x7b\x7bg, select, x_1 \x7bA \x7bn\x7d\x7d " ++
    "other \x7bno \x7bd\x7d.\x7d\x7d\x7d other \x7b\x7d\x7d"

/-- Its message. -/
def ticket : Message :=
  [.choice .plural "n"
    [.mk (.exact 7) [.text "agent" ⟨18, 23⟩] ⟨12, 24⟩,
      .mk (.word "one")
        [.choice .select "g"
          [.mk (.word "x_1") [.text "A " ⟨47, 49⟩, .reference "n" ⟨49, 52⟩] ⟨42, 53⟩,
            .mk .other [.text "no \x7bd\x7d." ⟨61, 68⟩] ⟨54, 69⟩] ⟨30, 70⟩] ⟨25, 71⟩,
      .mk .other [] ⟨72, 80⟩] ⟨0, 81⟩]

/-- The texts around the name that is no placeholder (`ticketText`) are one text with it. -/
theorem regular_of_parse_ticketText :
    parse ⟨⟨true, "'"⟩, some ["n"], ReadingOptions.defaultLimit⟩ ticketText = .ok ticket ∧
      Regular ticket ∧ nestingOfNodes ticket ≤ 32 := by
  have hparse : parse ⟨⟨true, "'"⟩, some ["n"], ReadingOptions.defaultLimit⟩ ticketText =
      .ok ticket := by decide +kernel
  exact ⟨hparse, regular_of_parse hparse⟩

end Parlance.Grammar
