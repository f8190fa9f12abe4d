import Parlance.Proofs.Message.Acceptance
import Parlance.Proofs.Number.Digits

/-!
# The shape of messages

What every message that is read looks like: names are words that start with no digit, the keys of a
choice are distinct, of the right sort, and include `other`, no two texts are neighbours, and
branches are nested no deeper than the limit (`wellFormed_of_parse`). `WellFormed` leaves open what
texts may be.
-/

namespace Parlance.Grammar

open Parlance.Message Parlance.Number Parlance.Text

/-! ## Names and keys -/

/-- Whether a string is a word of ASCII letters, digits and underscores. -/
def IsWordText (s : String) : Prop := s.toList ≠ [] ∧ ∀ c ∈ s.toList, isAsciiWordChar c = true

/-- Whether a string can be the name of a placeholder. -/
def IsNameText (s : String) : Prop := IsWordText s ∧ ∀ c ∈ s.toList.head?, c.isDigit = false

/-- Whether a string can be the format of an argument. -/
def IsFormatText (s : String) : Prop := IsWordText s ∧ ∃ c ∈ s.toList, c.isDigit = false

/-- Whether a key can stand in a choice. -/
def KeyFits : ChoiceKind → Key → Prop
  | .plural, .exact n => (decimalDigits n).length ≤ digitLimit
  | .plural, .word w => w ∈ pluralCategories
  | .select, .exact _ => False
  | .select, .word w => IsWordText w

/-! ## Well-formed messages -/

section

variable (texts : String → Prop)

mutual

/-- Whether a node is well-formed, if `texts` says what texts may be. -/
def WellFormedNode : Node → Prop
  | .text value _ => texts value
  | .reference name _ => IsNameText name
  | .choice kind name branches _ =>
    IsNameText name ∧ WellFormedBranches kind branches ∧ (branches.map Branch.key).Nodup ∧
      Key.other ∈ branches.map Branch.key
  | .argument name _ skeleton _ => IsNameText name ∧ ∀ s ∈ skeleton, IsFormatText s

/-- Whether the branches of a choice are well-formed. -/
def WellFormedBranches (kind : ChoiceKind) : List Branch → Prop
  | [] => True
  | .mk key message _ :: rest =>
    KeyFits kind key ∧ WellFormedNodes message ∧ Separate message ∧ WellFormedBranches kind rest

/-- Whether nodes are well-formed. -/
def WellFormedNodes : List Node → Prop
  | [] => True
  | n :: rest => WellFormedNode n ∧ WellFormedNodes rest

end

/-- Whether a message is well-formed. -/
def WellFormed (m : Message) : Prop := WellFormedNodes texts m ∧ Separate m

end

variable {texts : String → Prop}

/-- No nodes are well-formed (`WellFormedNodes`). -/
@[simp] theorem wellFormedNodes_nil : WellFormedNodes texts [] := by
  rw [WellFormedNodes]; trivial

/-- Nodes are well-formed (`WellFormedNodes`) if the first one and the rest are. -/
@[simp] theorem wellFormedNodes_cons (n : Node) (rest : List Node) :
    WellFormedNodes texts (n :: rest) ↔ WellFormedNode texts n ∧ WellFormedNodes texts rest := by
  rw [WellFormedNodes]

/-- No branches are well-formed (`WellFormedBranches`). -/
@[simp] theorem wellFormedBranches_nil (kind : ChoiceKind) :
    WellFormedBranches texts kind [] := by
  rw [WellFormedBranches]; trivial

/-- Branches are well-formed (`WellFormedBranches`) if the first one has a fitting key and a
well-formed message, and the rest is. -/
@[simp] theorem wellFormedBranches_cons (kind : ChoiceKind) (key : Key) (message : List Node)
    (span : Span) (rest : List Branch) :
    WellFormedBranches texts kind (.mk key message span :: rest) ↔
      KeyFits kind key ∧ WellFormed texts message ∧ WellFormedBranches texts kind rest := by
  rw [WellFormedBranches, WellFormed, and_assoc]

/-- Every branch of well-formed branches has a fitting key (`KeyFits`). -/
theorem keyFits_of_mem {kind : ChoiceKind} {branches : List Branch}
    (h : WellFormedBranches texts kind branches) : ∀ b ∈ branches, KeyFits kind b.key := by
  induction branches with
  | nil => simp
  | cons b rest ih =>
    cases b with
    | mk key message span =>
      obtain ⟨hkey, -, hrest⟩ := (wellFormedBranches_cons ..).1 h
      simpa [Branch.key] using ⟨hkey, ih hrest⟩

/-! ## Nesting -/

mutual

/-- How deeply branches are nested in a node. -/
def nestingOfNode : Node → Nat
  | .choice _ _ branches _ => nestingOfBranches branches
  | _ => 0

/-- How deeply branches are nested in a choice, its own counted. -/
def nestingOfBranches : List Branch → Nat
  | [] => 0
  | .mk _ message _ :: rest => max (nestingOfNodes message + 1) (nestingOfBranches rest)

/-- How deeply branches are nested in a message. -/
def nestingOfNodes : List Node → Nat
  | [] => 0
  | n :: rest => max (nestingOfNode n) (nestingOfNodes rest)

end

/-- No nodes are not nested (`nestingOfNodes`). -/
@[simp] private theorem nestingOfNodes_nil : nestingOfNodes [] = 0 := by rw [nestingOfNodes]

/-- Nodes are nested (`nestingOfNodes`) as deeply as the deepest of them. -/
@[simp] theorem nestingOfNodes_cons (n : Node) (rest : List Node) :
    nestingOfNodes (n :: rest) = max (nestingOfNode n) (nestingOfNodes rest) := by
  rw [nestingOfNodes]

/-- No branches are not nested (`nestingOfBranches`). -/
@[simp] private theorem nestingOfBranches_nil : nestingOfBranches [] = 0 := by rw
    [nestingOfBranches]

/-- The message of a branch is one level deeper (`nestingOfBranches`) than the branch. -/
@[simp] theorem nestingOfBranches_cons (key : Key) (message : List Node) (span : Span)
    (rest : List Branch) :
    nestingOfBranches (.mk key message span :: rest) =
      max (nestingOfNodes message + 1) (nestingOfBranches rest) := by
  rw [nestingOfBranches]

/-! ## Joined texts -/

/-- Joining texts (`joinTexts`) leaves a message well-formed, where every text may be. -/
private theorem wellFormedNodes_joinTexts {nodes : List Node}
    (h : WellFormedNodes (fun _ => True) nodes) :
    WellFormedNodes (fun _ => True) (joinTexts nodes) := by
  induction nodes with
  | nil => exact h
  | cons n rest ih =>
    obtain ⟨hn, hrest⟩ := (wellFormedNodes_cons _ _).1 h
    have hjoined := ih hrest
    rw [joinTexts, List.foldr_cons, ← joinTexts]
    -- Two texts become one, of which nothing is asked; else the nodes stay.
    rcases apart_or_texts n (joinTexts rest) with hhead | ⟨value, span, after, span', more, rfl, he⟩
    · rw [joinText_of_head hhead]
      exact (wellFormedNodes_cons _ _).2 ⟨hn, hjoined⟩
    · rw [he] at hjoined ⊢
      refine (wellFormedNodes_cons _ _).2 ⟨?_, ((wellFormedNodes_cons _ _).1 hjoined).2⟩
      rw [WellFormedNode]; trivial

/-- Joining texts (`joinTexts`) does not change how deeply branches are nested. -/
private theorem nestingOfNodes_joinTexts (nodes : List Node) :
    nestingOfNodes (joinTexts nodes) = nestingOfNodes nodes := by
  induction nodes with
  | nil => rfl
  | cons n rest ih =>
    rw [joinTexts, List.foldr_cons, ← joinTexts, nestingOfNodes_cons, ← ih]
    rcases apart_or_texts n (joinTexts rest) with hhead | ⟨value, span, after, span', more, rfl, he⟩
    · rw [joinText_of_head hhead, nestingOfNodes_cons]
    · rw [he]
      simp [joinText, nestingOfNode]

/-! ## Words as tokens -/

/-- The value of a sound word (`WordSound`) is a word. -/
theorem isWordText_of_wordSound {t : Token} (ht : t.kind = .identifier ∨ t.kind = .number)
    (hsound : t.WordSound) : IsWordText t.value :=
  ⟨(hsound ht).1, (hsound ht).2.1⟩

/-- The value of a sound name (`IsName`) is a name. -/
private theorem isNameText_of_isName {t : Token} (ht : IsName t) (hsound : t.WordSound) :
    IsNameText t.value :=
  ⟨isWordText_of_wordSound (.inl ht.1) hsound, ht.2⟩

/-- The value of a sound identifier is a format (`IsFormatText`). -/
private theorem isFormatText_of_identifier {t : Token} (ht : t.kind = .identifier)
    (hsound : t.WordSound) : IsFormatText t.value := by
  refine ⟨isWordText_of_wordSound (.inl ht) hsound, ?_⟩
  have hkind := (hsound (.inl ht)).2.2
  rw [ht, Token.wordKind] at hkind
  split at hkind
  · cases hkind
  · next hall => simpa using hall

/-- The key of a label of sound tokens fits the kind (`KeyFits`). -/
private theorem keyFits_of_valid {kind : ChoiceKind} {label : Label} (hlabel : label.Valid kind)
    (hsound : ∀ t ∈ label.leaves, t.WordSound) (hfits : FitsDigits label.leaves) :
    KeyFits kind label.key := by
  cases kind <;> cases label
  case plural.exact equals number =>
    -- the number may have leading zeros, which its decimal digits lack
    have hne := (hsound number (by simp [Label.leaves]) (.inr hlabel.2)).1
    have hlength := hfits equals number List.infix_rfl hlabel.1 hlabel.2
    rw [← String.length_toList] at hlength
    exact (length_decimalDigits_le hne).trans hlength
  case plural.word t => exact hlabel.2
  case select.exact => exact hlabel.elim
  case select.word t => exact isWordText_of_wordSound hlabel (hsound t (by simp [Label.leaves]))

/-! ## Messages of derivations -/

section

variable {reference : String → Span → Node}

mutual

/-- The nodes (`nodesOf`) of a derivation are well-formed. -/
theorem wellFormedNodes_nodesOf
    (href : ∀ name span, IsNameText name → WellFormedNode (fun _ => True) (reference name span)) :
    ∀ items : List Item, ValidItems items → (∀ t ∈ leavesOfItems items, t.WordSound) →
      FitsDigits (leavesOfItems items) →
      WellFormedNodes (fun _ => True) (nodesOf reference items)
  | [], _, _, _ => by simp
  | i :: items, hvalid, hsound, hfits => by
    obtain ⟨hi, hitems⟩ := (validItems_cons _ _).1 hvalid
    rw [leavesOfItems_cons] at hsound hfits
    rw [nodesOf_cons]
    exact (wellFormedNodes_cons _ _).2
      ⟨wellFormedNode_node href i hi (fun t ht => hsound t (List.mem_append_left _ ht))
        (hfits.of_part (List.prefix_append _ _).isInfix),
       wellFormedNodes_nodesOf href items hitems
        (fun t ht => hsound t (List.mem_append_right _ ht))
        (hfits.of_part (List.suffix_append _ _).isInfix)⟩

/-- The node of a part (`Item.node`) of a derivation is well-formed. -/
theorem wellFormedNode_node
    (href : ∀ name span, IsNameText name → WellFormedNode (fun _ => True) (reference name span)) :
    ∀ i : Item, i.Valid → (∀ t ∈ i.leaves, t.WordSound) → FitsDigits i.leaves →
      WellFormedNode (fun _ => True) (i.node reference)
  | .text t, _, _, _ => by rw [Item.node, WellFormedNode]; trivial
  | .reference o c, hi, hsound, _ => by
    rw [Item.Valid] at hi
    rw [Item.leaves] at hsound
    rw [Item.node]
    exact href _ _ (isNameText_of_isName hi.1.2 (hsound _ (by simp [Opening.leaves])))
  | .choice kind o comma keyword second arms c, hi, hsound, hfits => by
    rw [Item.Valid] at hi
    obtain ⟨ho, -, -, -, harms, hkeys, hother, -⟩ := hi
    rw [Item.leaves] at hsound hfits
    rw [Item.node, WellFormedNode, keys_branchesOf]
    refine ⟨isNameText_of_isName ho.2 (hsound _ (by simp [Opening.leaves])), ?_, hkeys, hother⟩
    -- The arms are an infix of the leaves, so that what holds of these holds of them.
    exact wellFormedBranches_branchesOf href kind arms harms (fun t ht => hsound t (by simp [ht]))
      (hfits.of_part ⟨o.leaves ++ [comma, keyword, second], [c], rfl⟩)
  | .argument kind o comma keyword format c, hi, hsound, _ => by
    rw [Item.Valid] at hi
    obtain ⟨ho, -, -, hformat, -⟩ := hi
    rw [Item.leaves] at hsound
    rw [Item.node, WellFormedNode]
    refine ⟨isNameText_of_isName ho.2 (hsound _ (by simp [Opening.leaves])), ?_⟩
    cases format with
    | none => simp
    | some p =>
      have hword := isFormatText_of_identifier hformat.2 (hsound _ (by simp [formatLeaves]))
      simpa using hword

/-- The branches (`branchesOf`) of a derivation are well-formed. -/
theorem wellFormedBranches_branchesOf
    (href : ∀ name span, IsNameText name → WellFormedNode (fun _ => True) (reference name span))
    (kind : ChoiceKind) : ∀ arms : List Arm, ValidArms kind arms →
      (∀ t ∈ leavesOfArms arms, t.WordSound) → FitsDigits (leavesOfArms arms) →
      WellFormedBranches (fun _ => True) kind (branchesOf reference arms)
  | [], _, _, _ => by simp
  | .mk label brace message c :: arms, hvalid, hsound, hfits => by
    obtain ⟨hlabel, -, hmessage, -, harms⟩ := (validArms_cons ..).1 hvalid
    rw [leavesOfArms_cons] at hsound hfits
    rw [branchesOf_cons]
    -- the key, the message between the braces, and the other branches
    have hkey := keyFits_of_valid hlabel (fun t ht => hsound t (by simp [ht]))
      (hfits.of_part ⟨[], [brace] ++ leavesOfItems message ++ [c] ++ leavesOfArms arms, by simp⟩)
    have hnodes := wellFormedNodes_nodesOf href message hmessage
      (fun t ht => hsound t (by simp [ht]))
      (hfits.of_part ⟨label.leaves ++ [brace], [c] ++ leavesOfArms arms, by simp⟩)
    have hrest := wellFormedBranches_branchesOf href kind arms harms
      (fun t ht => hsound t (by simp [ht])) (hfits.of_part (List.suffix_append _ _).isInfix)
    exact (wellFormedBranches_cons ..).2
      ⟨hkey, ⟨wellFormedNodes_joinTexts hnodes, separate_joinTexts _⟩, hrest⟩

end

mutual

/-- Branches are nested in a message as deeply as in its derivation (`nestingOfItems`). -/
theorem nestingOfNodes_nodesOf (href : ∀ name span, nestingOfNode (reference name span) = 0) :
    ∀ items : List Item, nestingOfNodes (nodesOf reference items) = nestingOfItems items
  | [] => by simp
  | i :: items => by
    rw [nodesOf_cons, nestingOfNodes_cons, nestingOfItems_cons, nestingOfNode_node href i,
      nestingOfNodes_nodesOf href items]

/-- Branches are nested in a node (`nestingOfNode`) as deeply as in its derivation. -/
theorem nestingOfNode_node (href : ∀ name span, nestingOfNode (reference name span) = 0) :
    ∀ i : Item, nestingOfNode (i.node reference) = i.nesting
  | .text _ => by simp [Item.node, nestingOfNode, Item.nesting]
  | .reference _ _ => by simp [Item.node, href, Item.nesting]
  | .choice _ _ _ _ _ arms _ => by
    rw [Item.node, nestingOfNode, Item.nesting, nestingOfBranches_branchesOf href arms]
  | .argument _ _ _ _ _ _ => by simp [Item.node, nestingOfNode, Item.nesting]

/-- Branches are nested (`nestingOfBranches`) in branches as deeply as in their derivation. -/
theorem nestingOfBranches_branchesOf
    (href : ∀ name span, nestingOfNode (reference name span) = 0) :
    ∀ arms : List Arm, nestingOfBranches (branchesOf reference arms) = nestingOfArms arms
  | [] => by simp
  | .mk label brace message c :: arms => by
    rw [branchesOf_cons, nestingOfBranches_cons, nestingOfArms_cons, messageOf,
      nestingOfNodes_joinTexts, nestingOfNodes_nodesOf href message,
      nestingOfBranches_branchesOf href arms]

end

end

/-! ## Messages that are read -/

/-- A name in braces (`referenceNode`) is a reference with this name or a text. -/
theorem referenceNode_cases (known : Option (List String)) (source : List Char) (name : String)
    (span : Span) :
    referenceNode known source name span = .reference name span ∨
      referenceNode known source name span = .text (slice source span) span := by
  cases known with
  | none => exact .inl rfl
  | some names =>
    simp only [referenceNode]
    split
    · exact .inl rfl
    · exact .inr rfl

/-- A message that is read is well-formed (`WellFormed`), and its branches are nested no deeper than
the limit. -/
theorem wellFormed_of_parse {options : ReadingOptions} {text : String} {m : Message}
    (h : parse options text = .ok m) :
    WellFormed (fun _ => True) m ∧ nestingOfNodes m ≤ options.limit.toNat := by
  rw [parse] at h
  cases hscan : Token.ofText options.quoting text with
  | error f => simp [hscan] at h
  | ok ts =>
    simp only [hscan] at h
    have hsound := Token.wordSound_of_scan _ _ _ _ _ ts hscan
    obtain ⟨items, hvalid, hnesting, rfl, rfl⟩ := derivation_of_ofTokens hsound h
    have hfits := fitsDigits_of_ofTokens h
    constructor
    · refine ⟨wellFormedNodes_joinTexts (wellFormedNodes_nodesOf ?_ items hvalid hsound hfits),
        separate_joinTexts _⟩
      -- a name that is not known stands for text, of which nothing is asked
      intro name span hname
      rcases referenceNode_cases options.known text.toList name span with he | he <;>
        rw [he, WellFormedNode]
      · exact hname
      · trivial
    · rw [messageOf, nestingOfNodes_joinTexts, nestingOfNodes_nodesOf _ items]
      · exact hnesting
      · intro name span
        rcases referenceNode_cases options.known text.toList name span with he | he <;>
          rw [he, nestingOfNode] <;> simp

end Parlance.Grammar
