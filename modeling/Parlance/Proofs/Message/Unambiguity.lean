import Parlance.Proofs.Message.Grammar

/-!
# The grammar is unambiguous

The tokens of a valid part of a message are the beginning of those of no other, since each rule says
by its tokens where it ends (`item_unique`). So a sequence of tokens has at most one derivation
(`derives_unique`).
-/

namespace Parlance.Grammar

/-! ## How constructs begin -/

/-- A part of a message (`Item`) begins with a text or an opening brace. -/
private theorem leaves_eq_cons {i : Item} (hi : i.Valid) :
    ∃ t more, i.leaves = t :: more ∧ (t.kind = .text ∨ t.kind = .openBrace) := by
  cases i with
  | text t =>
    rw [Item.Valid] at hi
    exact ⟨t, [], by rw [Item.leaves], .inl hi⟩
  | reference o c =>
    rw [Item.Valid] at hi
    exact ⟨o.brace, _, by rw [Item.leaves]; rfl, .inr hi.1.1⟩
  | choice kind o comma keyword second arms c =>
    rw [Item.Valid] at hi
    exact ⟨o.brace, _, by rw [Item.leaves]; rfl, .inr hi.1.1⟩
  | argument kind o comma keyword format c =>
    rw [Item.Valid] at hi
    exact ⟨o.brace, _, by rw [Item.leaves]; rfl, .inr hi.1.1⟩

/-- A label (`Label`) begins with no closing brace. -/
private theorem label_leaves_eq_cons {kind : ChoiceKind} {label : Label} (hlabel : label.Valid kind)
    : ∃ t more, label.leaves = t :: more ∧ t.kind ≠ .closeBrace := by
  cases kind <;> cases label
  case plural.exact equals number => exact ⟨equals, [number], rfl, by simp [hlabel.1]⟩
  case plural.word t => exact ⟨t, [], rfl, by simp [hlabel.1]⟩
  case select.exact => exact hlabel.elim
  case select.word t =>
    refine ⟨t, [], rfl, ?_⟩
    rcases hlabel with ht | ht <;> simp [ht]

/-- Whether what follows a message begins no further part of it. -/
def EndsItems (rest : List Token) : Prop :=
  ∀ t ∈ rest.head?, t.kind ≠ .text ∧ t.kind ≠ .openBrace

/-- A closing brace and the end of the message end the parts of a message (`EndsItems`). -/
private theorem endsItems_cons {t : Token} {rest : List Token}
    (ht : t.kind = .closeBrace ∨ t.kind = .endOfMessage) : EndsItems (t :: rest) := by
  intro u hu
  obtain rfl : t = u := by simpa using hu
  rcases ht with ht | ht <;> simp [ht]

/-- A label (`Label`) is told by its tokens. -/
theorem label_unique {kind : ChoiceKind} {label label' : Label} {rest rest' : List Token}
    (hlabel : label.Valid kind) (hlabel' : label'.Valid kind)
    (h : label.leaves ++ rest = label'.leaves ++ rest') : label = label' ∧ rest = rest' := by
  cases label with
  | exact equals number =>
    cases label' with
    | exact equals' number' => simpa [Label.leaves, and_assoc] using h
    | word t =>
      cases kind with
      | plural =>
        -- A plural has no key that is an equals sign alone.
        obtain ⟨rfl, -⟩ : equals = t ∧ _ := by simpa [Label.leaves] using h
        simp [Label.Valid, hlabel.1] at hlabel'
      | select => exact hlabel.elim
  | word t =>
    cases label' with
    | exact equals number =>
      cases kind with
      | plural =>
        obtain ⟨rfl, -⟩ : t = equals ∧ _ := by simpa [Label.leaves] using h
        simp [Label.Valid, hlabel'.1] at hlabel
      | select => exact hlabel'.elim
    | word t' => simpa [Label.leaves] using h

/-- A format (`formatLeaves`) is told by its tokens and the brace behind it. -/
private theorem format_unique {format format' : Option (Token × Token)} {c c' : Token}
    {rest rest' : List Token} (hformat : ValidFormat format) (hformat' : ValidFormat format')
    (hc : c.kind = .closeBrace) (hc' : c'.kind = .closeBrace)
    (h : formatLeaves format ++ c :: rest = formatLeaves format' ++ c' :: rest') :
    format = format' ∧ c = c' ∧ rest = rest' := by
  cases format with
  | none =>
    cases format' with
    | none => simpa [formatLeaves] using h
    | some p =>
      -- a closing brace is no comma
      obtain ⟨rfl, -⟩ : c = p.1 ∧ _ := by simpa [formatLeaves] using h
      simp [hformat'.1] at hc
  | some p =>
    cases format' with
    | none =>
      obtain ⟨rfl, -⟩ : p.1 = c' ∧ _ := by simpa [formatLeaves] using h
      simp [hformat.1] at hc'
    | some p' => simpa [formatLeaves, Prod.ext_iff, and_assoc] using h

/-- Choices have different keywords (`ChoiceKind.keyword`). -/
private theorem choiceKeyword_injective {kind kind' : ChoiceKind} (h : kind.keyword = kind'.keyword)
    : kind = kind' := by
  cases kind <;> cases kind' <;> simp_all [ChoiceKind.keyword]

/-- Arguments have different keywords (`ArgumentKind.keyword`). -/
private theorem argumentKeyword_injective {kind kind' : ArgumentKind}
    (h : kind.keyword = kind'.keyword) : kind = kind' := by
  cases kind <;> cases kind' <;> simp_all [ArgumentKind.keyword]

/-- No choice has the keyword of an argument. -/
private theorem choiceKeyword_ne (kind : ChoiceKind) (kind' : ArgumentKind) :
    kind.keyword ≠ kind'.keyword := by
  cases kind <;> cases kind' <;> decide

/-- No part of a message begins where a message has ended (`EndsItems`). -/
theorem not_endsItems {i : Item} (hi : i.Valid) (more : List Token) :
    ¬ EndsItems (i.leaves ++ more) := by
  intro hends
  obtain ⟨t, more', ht, hkind⟩ := leaves_eq_cons hi
  have hne := hends t (by simp [ht])
  rcases hkind with hkind | hkind <;> simp [hkind] at hne

/-- A branch (`Label`) begins with no closing brace. -/
private theorem label_leaves_ne {kind : ChoiceKind} {label : Label} (hlabel : label.Valid kind)
    {c : Token} (hc : c.kind = .closeBrace) (more rest : List Token) :
    label.leaves ++ more ≠ c :: rest := by
  intro h
  obtain ⟨t, more', ht, hkind⟩ := label_leaves_eq_cons hlabel
  obtain ⟨rfl, -⟩ : t = c ∧ _ := by simpa [ht] using h
  exact hkind hc

/-! ## One derivation at most -/

mutual

/-- The parts of a message (`ValidItems`) are told by their tokens. -/
theorem items_unique : ∀ (items items' : List Item) (rest rest' : List Token),
    ValidItems items → ValidItems items' → EndsItems rest → EndsItems rest' →
    leavesOfItems items ++ rest = leavesOfItems items' ++ rest' → items = items' ∧ rest = rest'
  | [], [], rest, rest', _, _, _, _, h => ⟨rfl, by simpa using h⟩
  | [], i :: items', rest, rest', _, hv', hrest, _, h => by
    simp only [leavesOfItems_nil, List.nil_append, leavesOfItems_cons, List.append_assoc] at h
    -- One list is at its end where the other goes on, but an end begins no part.
    exact absurd (h ▸ hrest) (not_endsItems ((validItems_cons _ _).1 hv').1 _)
  | i :: items, [], rest, rest', hv, _, _, hrest', h => by
    simp only [leavesOfItems_nil, List.nil_append, leavesOfItems_cons, List.append_assoc] at h
    exact absurd (h ▸ hrest') (not_endsItems ((validItems_cons _ _).1 hv).1 _)
  | i :: items, i' :: items', rest, rest', hv, hv', hrest, hrest', h => by
    obtain ⟨hi, hitems⟩ := (validItems_cons _ _).1 hv
    obtain ⟨hi', hitems'⟩ := (validItems_cons _ _).1 hv'
    simp only [leavesOfItems_cons, List.append_assoc] at h
    -- The first parts are the same and leave the same, and so the induction goes on.
    obtain ⟨rfl, htail⟩ := item_unique i i' _ _ hi hi' h
    obtain ⟨rfl, rfl⟩ := items_unique items items' rest rest' hitems hitems' hrest hrest' htail
    exact ⟨rfl, rfl⟩

/-- A part of a message (`Item.Valid`) is told by its tokens, whatever follows. -/
theorem item_unique : ∀ (i i' : Item) (rest rest' : List Token), i.Valid → i'.Valid →
    i.leaves ++ rest = i'.leaves ++ rest' → i = i' ∧ rest = rest'
  | .text t, i', rest, rest', hi, hi', h => by
    rw [Item.Valid] at hi
    -- every rule but that of text begins with a brace
    cases i' <;> rw [Item.Valid] at hi' <;>
      simp only [Item.leaves, Opening.leaves, List.append_assoc, List.cons_append, List.nil_append,
        List.cons.injEq] at h <;> obtain ⟨rfl, h⟩ := h
    case text => exact ⟨rfl, h⟩
    all_goals simp [hi'.1.1] at hi
  | .reference o c, i', rest, rest', hi, hi', h => by
    rw [Item.Valid] at hi
    -- after the name a reference has a brace, and each other rule a comma
    cases i' <;> rw [Item.Valid] at hi' <;>
      simp only [Item.leaves, Opening.leaves, List.append_assoc, List.cons_append, List.nil_append,
        List.cons.injEq] at h
    case text t =>
      obtain ⟨rfl, -⟩ := h
      simp [hi.1.1] at hi'
    case reference o' c' =>
      obtain ⟨hbrace, hname, rfl, rfl⟩ := h
      cases o; cases o'
      simp_all
    case choice =>
      obtain ⟨-, -, rfl, -⟩ := h
      simp [hi.2] at hi'
    case argument =>
      obtain ⟨-, -, rfl, -⟩ := h
      simp [hi.2] at hi'
  | .choice kind o comma keyword second arms c, i', rest, rest', hi, hi', h => by
    have ih := arms_unique kind arms
    rw [Item.Valid] at hi
    obtain ⟨ho, hcomma, hkeyword, hsecond, harms, -, -, hc⟩ := hi
    cases i' <;> rw [Item.Valid] at hi' <;>
      simp only [Item.leaves, Opening.leaves, List.append_assoc, List.cons_append, List.nil_append,
        List.cons.injEq] at h
    case text =>
      obtain ⟨rfl, -⟩ := h
      simp [ho.1] at hi'
    case reference =>
      obtain ⟨-, -, rfl, -⟩ := h
      simp [hcomma] at hi'
    case choice kind' o' comma' keyword' second' arms' c' =>
      obtain ⟨hbrace, hname, rfl, rfl, rfl, h⟩ := h
      -- the same keyword means the same rule, so the branches are those of one kind of choice
      obtain rfl := choiceKeyword_injective (hkeyword.2.symm.trans hi'.2.2.1.2)
      obtain ⟨rfl, rfl, rfl⟩ := ih _ _ _ _ _ harms hi'.2.2.2.2.1 hc hi'.2.2.2.2.2.2.2 h
      cases o; cases o'
      simp_all
    case argument kind' o' comma' keyword' format c' =>
      obtain ⟨-, -, -, rfl, -⟩ := h
      exact absurd (hkeyword.2.symm.trans hi'.2.2.1.2) (choiceKeyword_ne _ _)
  | .argument kind o comma keyword format c, i', rest, rest', hi, hi', h => by
    rw [Item.Valid] at hi
    obtain ⟨ho, hcomma, hkeyword, hformat, hc⟩ := hi
    cases i' <;> rw [Item.Valid] at hi' <;>
      simp only [Item.leaves, Opening.leaves, List.append_assoc, List.cons_append, List.nil_append,
        List.cons.injEq] at h
    case text =>
      obtain ⟨rfl, -⟩ := h
      simp [ho.1] at hi'
    case reference =>
      obtain ⟨-, -, rfl, -⟩ := h
      simp [hcomma] at hi'
    case choice =>
      obtain ⟨-, -, -, rfl, -⟩ := h
      exact absurd (hi'.2.2.1.2.symm.trans hkeyword.2) (choiceKeyword_ne _ _)
    case argument kind' o' comma' keyword' format' c' =>
      obtain ⟨hbrace, hname, rfl, rfl, h⟩ := h
      obtain rfl := argumentKeyword_injective (hkeyword.2.symm.trans hi'.2.2.1.2)
      obtain ⟨rfl, rfl, rfl⟩ := format_unique hformat hi'.2.2.2.1 hc hi'.2.2.2.2 h
      cases o; cases o'
      simp_all

/-- The branches of a choice (`ValidArms`) are told by their tokens. -/
theorem arms_unique (kind : ChoiceKind) : ∀ (arms arms' : List Arm) (c c' : Token)
    (rest rest' : List Token), ValidArms kind arms → ValidArms kind arms' →
    c.kind = .closeBrace → c'.kind = .closeBrace →
    leavesOfArms arms ++ c :: rest = leavesOfArms arms' ++ c' :: rest' →
    arms = arms' ∧ c = c' ∧ rest = rest'
  | [], [], c, c', rest, rest', _, _, _, _, h => by simpa using h
  | [], .mk label brace message d :: arms', c, c', rest, rest', _, hv', hc, _, h => by
    simp only [leavesOfArms_nil, List.nil_append, leavesOfArms_cons, List.append_assoc] at h
    exact absurd h.symm (label_leaves_ne ((validArms_cons ..).1 hv').1 hc _ _)
  | .mk label brace message d :: arms, [], c, c', rest, rest', hv, _, _, hc', h => by
    simp only [leavesOfArms_nil, List.nil_append, leavesOfArms_cons, List.append_assoc] at h
    exact absurd h (label_leaves_ne ((validArms_cons ..).1 hv).1 hc' _ _)
  | .mk label brace message d :: arms, .mk label' brace' message' d' :: arms', c, c', rest, rest',
      hv, hv', hc, hc', h => by
    obtain ⟨hlabel, -, hmessage, hd, harms⟩ := (validArms_cons ..).1 hv
    obtain ⟨hlabel', -, hmessage', hd', harms'⟩ := (validArms_cons ..).1 hv'
    simp only [leavesOfArms_cons, List.append_assoc, List.cons_append, List.nil_append] at h
    -- the key, its brace, the message and the closing brace are told apart one after the other
    obtain ⟨rfl, hbody⟩ := label_unique hlabel hlabel' h
    obtain ⟨rfl, hmore⟩ := List.cons.inj hbody
    obtain ⟨rfl, hend⟩ := items_unique message message' _ _ hmessage hmessage'
      (endsItems_cons (.inl hd)) (endsItems_cons (.inl hd')) hmore
    obtain ⟨rfl, htail⟩ := List.cons.inj hend
    obtain ⟨rfl, rfl, rfl⟩ :=
      arms_unique kind arms arms' c c' rest rest' harms harms' hc hc' htail
    exact ⟨rfl, rfl, rfl⟩

end

/-- A sequence of tokens has one derivation (`Derives`) at most. -/
theorem derives_unique {limit : Nat} {tokens : List Token} {items items' : List Item}
    (h : Derives limit tokens items) (h' : Derives limit tokens items') : items = items' := by
  obtain ⟨e, he, heq⟩ := h.leaves
  obtain ⟨e', he', heq'⟩ := h'.leaves
  exact (items_unique items items' [e] [e'] h.valid h'.valid (endsItems_cons (.inr he))
    (endsItems_cons (.inr he')) (heq.symm.trans heq')).1

end Parlance.Grammar
