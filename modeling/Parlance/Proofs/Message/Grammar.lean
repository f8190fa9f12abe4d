import Parlance.Message.Parser

/-!
# The grammar of messages

The rules by which tokens form a message:

    message := (TEXT | expr)*
    expr    := "{" name "}"
             | "{" name "," "plural" "," (pkey "{" message "}")* "}"
             | "{" name "," "select" "," (skey "{" message "}")* "}"
             | "{" name "," ("date" | "time") ["," IDENTIFIER] "}"

A derivation is a tree with one constructor for each rule and the tokens at its leaves. `Valid` says
that the tokens are of the kinds that the rules ask for, and that the keys of each choice are
distinct and include `other`; `nesting` counts how deeply its branches stand in one another.
`messageOf` is the message of a derivation: a node for each item, and neighbouring runs of text
joined to one.
-/

namespace Parlance.Grammar

open Parlance.Number

/-- The brace and the name at the start of every expression. -/
structure Opening where
  brace : Token
  name : Token

/-- The key of a branch: an equals sign and a number, or a word. -/
inductive Label where
  | exact (equals number : Token)
  | word (token : Token)

mutual

/-- A part of a message, by the rule that it follows. -/
inductive Item where
  | text (token : Token)
  | reference (opening : Opening) (closing : Token)
  | choice (kind : ChoiceKind) (opening : Opening) (comma keyword second : Token)
      (arms : List Arm) (closing : Token)
  | argument (kind : ArgumentKind) (opening : Opening) (comma keyword : Token)
      (format : Option (Token × Token)) (closing : Token)

/-- A branch of a choice. -/
inductive Arm where
  | mk (label : Label) (brace : Token) (message : List Item) (closing : Token)

end

/-! ## The tokens of a derivation -/

/-- The tokens of an opening. -/
def Opening.leaves (o : Opening) : List Token := [o.brace, o.name]

/-- The tokens of a key. -/
def Label.leaves : Label → List Token
  | .exact equals number => [equals, number]
  | .word token => [token]

/-- The tokens of the format of an argument. -/
def formatLeaves : Option (Token × Token) → List Token
  | none => []
  | some (comma, word) => [comma, word]

mutual

/-- The tokens of a part of a message. -/
def Item.leaves : Item → List Token
  | .text t => [t]
  | .reference o c => o.leaves ++ [c]
  | .choice _ o comma keyword second arms c =>
    o.leaves ++ [comma, keyword, second] ++ leavesOfArms arms ++ [c]
  | .argument _ o comma keyword format c =>
    o.leaves ++ [comma, keyword] ++ formatLeaves format ++ [c]

/-- The tokens of the branches of a choice. -/
def leavesOfArms : List Arm → List Token
  | [] => []
  | .mk label brace message c :: rest =>
    label.leaves ++ [brace] ++ leavesOfItems message ++ [c] ++ leavesOfArms rest

/-- The tokens of a message. -/
def leavesOfItems : List Item → List Token
  | [] => []
  | i :: rest => i.leaves ++ leavesOfItems rest

end

/-- No items have no leaves (`leavesOfItems`). -/
@[simp] theorem leavesOfItems_nil : leavesOfItems [] = [] := by rw [leavesOfItems]

/-- The leaves of items (`leavesOfItems`) stand one after the other. -/
@[simp] theorem leavesOfItems_cons (i : Item) (rest : List Item) :
    leavesOfItems (i :: rest) = i.leaves ++ leavesOfItems rest := by rw [leavesOfItems]

/-- No arms have no leaves (`leavesOfArms`). -/
@[simp] theorem leavesOfArms_nil : leavesOfArms [] = [] := by rw [leavesOfArms]

/-- The leaves of an arm (`leavesOfArms`) are its label, and its message between braces. -/
@[simp] theorem leavesOfArms_cons (label : Label) (brace : Token) (message : List Item)
    (c : Token) (rest : List Arm) :
    leavesOfArms (.mk label brace message c :: rest) =
      label.leaves ++ [brace] ++ leavesOfItems message ++ [c] ++ leavesOfArms rest := by
  rw [leavesOfArms]

/-- The leaves of items (`leavesOfItems`) that follow others follow theirs. -/
theorem leavesOfItems_append (items more : List Item) :
    leavesOfItems (items ++ more) = leavesOfItems items ++ leavesOfItems more := by
  induction items with
  | nil => simp
  | cons i rest ih => simp [ih]

/-- The leaves of arms (`leavesOfArms`) that follow others follow theirs. -/
theorem leavesOfArms_append (arms more : List Arm) :
    leavesOfArms (arms ++ more) = leavesOfArms arms ++ leavesOfArms more := by
  induction arms with
  | nil => simp
  | cons a rest ih =>
    cases a with
    | mk label brace message c => simp [ih]

/-! ## Valid derivations -/

/-- Whether a token can be the name of a placeholder: an identifier that starts with no digit. -/
def IsName (t : Token) : Prop :=
  t.kind = .identifier ∧ ∀ c ∈ t.value.toList.head?, c.isDigit = false

/-- Whether a token is a certain word. -/
def IsWord (word : String) (t : Token) : Prop := t.kind = .identifier ∧ t.value = word

/-- Whether an opening is a brace and a name. -/
def Opening.Valid (o : Opening) : Prop := o.brace.kind = .openBrace ∧ IsName o.name

/-- Whether a key can stand in a choice. -/
def Label.Valid : ChoiceKind → Label → Prop
  | .plural, .exact equals number => equals.kind = .equals ∧ number.kind = .number
  | .plural, .word t => t.kind = .identifier ∧ t.value ∈ pluralCategories
  | .select, .exact _ _ => False
  | .select, .word t => t.kind = .identifier ∨ t.kind = .number

/-- What a key selects by; exact keys are compared as numbers. -/
def Label.key : Label → Key
  | .exact _ number => .exact ((ofDigits? number.value.toList).getD 0)
  | .word t => .word t.value

/-- Where a key starts. -/
def Label.start : Label → Nat
  | .exact equals _ => equals.start
  | .word t => t.start

/-- The key of a branch. -/
def Arm.key : Arm → Key
  | mk label _ _ _ => label.key

/-- Whether the format of an argument, if it has one, is a comma and an identifier. -/
def ValidFormat : Option (Token × Token) → Prop
  | none => True
  | some (comma, word) => comma.kind = .comma ∧ word.kind = .identifier

mutual

/-- Whether a part of a message follows its rule. -/
def Item.Valid : Item → Prop
  | .text t => t.kind = .text
  | .reference o c => o.Valid ∧ c.kind = .closeBrace
  | .choice kind o comma keyword second arms c =>
    o.Valid ∧ comma.kind = .comma ∧ IsWord kind.keyword keyword ∧ second.kind = .comma ∧
      ValidArms kind arms ∧ (arms.map Arm.key).Nodup ∧ Key.other ∈ arms.map Arm.key ∧
      c.kind = .closeBrace
  | .argument kind o comma keyword format c =>
    o.Valid ∧ comma.kind = .comma ∧ IsWord kind.keyword keyword ∧ ValidFormat format ∧
      c.kind = .closeBrace

/-- Whether the branches of a choice follow their rule. -/
def ValidArms (kind : ChoiceKind) : List Arm → Prop
  | [] => True
  | .mk label brace message c :: rest =>
    label.Valid kind ∧ brace.kind = .openBrace ∧ ValidItems message ∧ c.kind = .closeBrace ∧
      ValidArms kind rest

/-- Whether the parts of a message follow their rules. -/
def ValidItems : List Item → Prop
  | [] => True
  | i :: rest => i.Valid ∧ ValidItems rest

end

/-- No items are well formed. -/
@[simp] theorem validItems_nil : ValidItems [] := by rw [ValidItems]; trivial

/-- Items are well formed (`ValidItems`) if each one is. -/
@[simp] theorem validItems_cons (i : Item) (rest : List Item) :
    ValidItems (i :: rest) ↔ i.Valid ∧ ValidItems rest := by rw [ValidItems]

/-- No arms are well formed. -/
@[simp] theorem validArms_nil (kind : ChoiceKind) : ValidArms kind [] := by
  rw [ValidArms]; trivial

/-- Arms are well formed (`ValidArms`) if each has a label of the kind and a message between braces.
-/
@[simp] theorem validArms_cons (kind : ChoiceKind) (label : Label) (brace : Token)
    (message : List Item) (c : Token) (rest : List Arm) :
    ValidArms kind (.mk label brace message c :: rest) ↔
      label.Valid kind ∧ brace.kind = .openBrace ∧ ValidItems message ∧ c.kind = .closeBrace ∧
        ValidArms kind rest := by
  rw [ValidArms]

/-- Items before and after others are well formed (`ValidItems`) on their own. -/
theorem validItems_append (items more : List Item) :
    ValidItems (items ++ more) ↔ ValidItems items ∧ ValidItems more := by
  induction items with
  | nil => simp
  | cons i rest ih => simp [ih, and_assoc]

/-- Arms before and after others are well formed (`ValidArms`) on their own. -/
theorem validArms_append (kind : ChoiceKind) (arms more : List Arm) :
    ValidArms kind (arms ++ more) ↔ ValidArms kind arms ∧ ValidArms kind more := by
  induction arms with
  | nil => simp
  | cons a rest ih =>
    cases a with
    | mk label brace message c => simp [ih, and_assoc]

/-! ## Nesting -/

mutual

/-- How deeply branches are nested in a part of a message. -/
def Item.nesting : Item → Nat
  | .choice _ _ _ _ _ arms _ => nestingOfArms arms
  | _ => 0

/-- How deeply branches are nested in a choice, its own counted. -/
def nestingOfArms : List Arm → Nat
  | [] => 0
  | .mk _ _ message _ :: rest => max (nestingOfItems message + 1) (nestingOfArms rest)

/-- How deeply branches are nested in a message. -/
def nestingOfItems : List Item → Nat
  | [] => 0
  | i :: rest => max i.nesting (nestingOfItems rest)

end

/-- No items are not nested (`nestingOfItems`). -/
@[simp] theorem nestingOfItems_nil : nestingOfItems [] = 0 := by rw [nestingOfItems]

/-- Items are nested (`nestingOfItems`) as deeply as the deepest of them. -/
@[simp] theorem nestingOfItems_cons (i : Item) (rest : List Item) :
    nestingOfItems (i :: rest) = max i.nesting (nestingOfItems rest) := by rw [nestingOfItems]

/-- No arms are not nested (`nestingOfArms`). -/
@[simp] theorem nestingOfArms_nil : nestingOfArms [] = 0 := by rw [nestingOfArms]

/-- The message of an arm is one level deeper (`nestingOfArms`) than the arm. -/
@[simp] theorem nestingOfArms_cons (label : Label) (brace : Token) (message : List Item)
    (c : Token) (rest : List Arm) :
    nestingOfArms (.mk label brace message c :: rest) =
      max (nestingOfItems message + 1) (nestingOfArms rest) := by
  rw [nestingOfArms]

/-- Items and others behind them are nested as deeply (`nestingOfItems`) as the deeper ones. -/
theorem nestingOfItems_append (items more : List Item) :
    nestingOfItems (items ++ more) = max (nestingOfItems items) (nestingOfItems more) := by
  induction items with
  | nil => simp
  | cons i rest ih => simp [ih, Nat.max_assoc]

/-- Arms and others behind them are nested as deeply (`nestingOfArms`) as the deeper ones. -/
theorem nestingOfArms_append (arms more : List Arm) :
    nestingOfArms (arms ++ more) = max (nestingOfArms arms) (nestingOfArms more) := by
  induction arms with
  | nil => simp
  | cons a rest ih =>
    cases a with
    | mk label brace message c => simp [ih, Nat.max_assoc]

/-! ## The message of a derivation -/

/-- Puts a node before others, as one node with text that follows it. -/
def joinText : Node → List Node → List Node
  | .text value span, .text after span' :: rest =>
    .text (value ++ after) ⟨span.start, span'.stop⟩ :: rest
  | n, rest => n :: rest

/-- Nodes with each run of neighbouring texts as one. -/
def joinTexts (nodes : List Node) : List Node := nodes.foldr joinText []

mutual

/-- The node of a part of a message; `reference` says what a name in braces is. -/
def Item.node (reference : String → Span → Node) : Item → Node
  | .text t => .text t.value ⟨t.start, t.stop⟩
  | .reference o c => reference o.name.value ⟨o.brace.start, c.stop⟩
  | .choice kind o _ _ _ arms c =>
    .choice kind o.name.value (branchesOf reference arms) ⟨o.brace.start, c.stop⟩
  | .argument kind o _ _ format c =>
    .argument o.name.value kind (format.map (·.2.value)) ⟨o.brace.start, c.stop⟩

/-- The branches of a choice. -/
def branchesOf (reference : String → Span → Node) : List Arm → List Branch
  | [] => []
  | .mk label _ message c :: rest =>
    .mk label.key (joinTexts (nodesOf reference message)) ⟨label.start, c.stop⟩ ::
      branchesOf reference rest

/-- The nodes of the parts of a message, one for each. -/
def nodesOf (reference : String → Span → Node) : List Item → List Node
  | [] => []
  | i :: rest => i.node reference :: nodesOf reference rest

end

/-- The message of a derivation. -/
def messageOf (reference : String → Span → Node) (items : List Item) : Message :=
  joinTexts (nodesOf reference items)

variable {reference : String → Span → Node}

/-- No items give no nodes (`nodesOf`). -/
@[simp] theorem nodesOf_nil : nodesOf reference [] = [] := by rw [nodesOf]

/-- Every item gives a node (`Item.node`). -/
@[simp] theorem nodesOf_cons (i : Item) (rest : List Item) :
    nodesOf reference (i :: rest) = i.node reference :: nodesOf reference rest := by rw [nodesOf]

/-- No arms give no branches (`branchesOf`). -/
@[simp] theorem branchesOf_nil : branchesOf reference [] = [] := by rw [branchesOf]

/-- Every arm gives a branch (`branchesOf`), with the span of its label and braces. -/
@[simp] theorem branchesOf_cons (label : Label) (brace : Token) (message : List Item) (c : Token)
    (rest : List Arm) :
    branchesOf reference (.mk label brace message c :: rest) =
      .mk label.key (messageOf reference message) ⟨label.start, c.stop⟩ ::
        branchesOf reference rest := by
  rw [branchesOf, messageOf]

/-- The nodes (`nodesOf`) of items that follow others follow theirs. -/
theorem nodesOf_append (items more : List Item) :
    nodesOf reference (items ++ more) = nodesOf reference items ++ nodesOf reference more := by
  induction items with
  | nil => simp
  | cons i rest ih => simp [ih]

/-- The branches (`branchesOf`) of arms that follow others follow theirs. -/
theorem branchesOf_append (arms more : List Arm) :
    branchesOf reference (arms ++ more) =
      branchesOf reference arms ++ branchesOf reference more := by
  induction arms with
  | nil => simp
  | cons a rest ih =>
    cases a with
    | mk label brace message c => simp [ih]

/-- The branches (`branchesOf`) of a choice have the keys of its derivation. -/
theorem keys_branchesOf (arms : List Arm) :
    (branchesOf reference arms).map Branch.key = arms.map Arm.key := by
  induction arms with
  | nil => simp
  | cons a rest ih =>
    cases a with
    | mk label brace message c => simp [ih, Branch.key, Arm.key]

/-! ## Derivations of token sequences -/

/-- A derivation of a sequence of tokens that ends with the token for its end. -/
structure Derives (limit : Nat) (tokens : List Token) (items : List Item) : Prop where
  valid : ValidItems items
  nesting_le : nestingOfItems items ≤ limit
  leaves : ∃ e : Token, e.kind = .endOfMessage ∧ tokens = leavesOfItems items ++ [e]

end Parlance.Grammar
