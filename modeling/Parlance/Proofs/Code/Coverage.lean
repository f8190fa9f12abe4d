import Parlance.Proofs.Code.Choices
import Parlance.Proofs.Message.Occurrence

/-!
# Scopes that cover a message

The names in a message are those that occur in it (`mem_messageNames_iff`). A scope that has a
placeholder and a parameter for every name in a well-formed message gives the message an expression
(`messageExpr?_of_covers`).
-/

namespace Parlance.Code

open Parlance.Grammar

/-! ## The names in a message -/

mutual

/-- The names in a node. -/
def nodeNames : Node → List String
  | .text _ _ => []
  | .reference name _ => [name]
  | .choice _ name branches _ => name :: branchNames branches
  | .argument name _ _ _ => [name]

/-- The names in the branches of a choice. -/
def branchNames : List Branch → List String
  | [] => []
  | .mk _ message _ :: rest => messageNames message ++ branchNames rest

/-- The names in a message. -/
def messageNames : List Node → List String
  | [] => []
  | n :: rest => nodeNames n ++ messageNames rest

end

/-- The empty message has no names (`messageNames`). -/
@[simp] theorem messageNames_nil : messageNames [] = [] := by rw [messageNames]

/-- The names of a message (`messageNames`) are those of its first node and of the rest. -/
@[simp] theorem messageNames_cons (n : Node) (rest : List Node) :
    messageNames (n :: rest) = nodeNames n ++ messageNames rest := by rw [messageNames]

/-- No branches have no names (`branchNames`). -/
@[simp] theorem branchNames_nil : branchNames [] = [] := by rw [branchNames]

/-- The names of branches (`branchNames`) are those of the first message and of the rest. -/
@[simp] theorem branchNames_cons (key : Key) (message : List Node) (span : Span)
    (rest : List Branch) :
    branchNames (.mk key message span :: rest) = messageNames message ++ branchNames rest := by
  rw [branchNames]

mutual

/-- The names in a node (`nodeNames`) are those that occur in it. -/
theorem mem_nodeNames_iff (name : String) : ∀ n : Node,
    name ∈ nodeNames n ↔ ∃ use, Occurs [n] name use
  | .text _ _ => by
    simp [nodeNames, Occurs, within_single_iff, Node.usage?]
  | .reference _ _ => by
    simp [nodeNames, Occurs, within_single_iff, Node.usage?, eq_comm]
  | .argument _ _ _ _ => by
    simp [nodeNames, Occurs, within_single_iff, Node.usage?, eq_comm]
  | .choice kind own branches span => by
    rw [nodeNames, List.mem_cons, mem_branchNames_iff name branches]
    simp only [Occurs, within_choice_iff, or_and_right, exists_or, exists_eq_left]
    -- either the choice itself has the name, or something in a branch has it
    refine or_congr ?_ ⟨?_, ?_⟩
    · cases kind <;> simp [Node.usage?, eq_comm]
    · rintro ⟨b, hb, use, n, hn, huse⟩
      exact ⟨use, n, ⟨b, hb, hn⟩, huse⟩
    · rintro ⟨use, n, ⟨b, hb, hn⟩, huse⟩
      exact ⟨b, hb, use, n, hn, huse⟩

/-- The names in branches (`branchNames`) are those that occur in their messages. -/
theorem mem_branchNames_iff (name : String) : ∀ branches : List Branch,
    name ∈ branchNames branches ↔ ∃ b ∈ branches, ∃ use, Occurs b.message name use
  | [] => by simp
  | .mk key message span :: rest => by
    rw [branchNames_cons, List.mem_append, mem_messageNames_iff name message,
      mem_branchNames_iff name rest]
    simp [Branch.message]

/-- The names in a message (`messageNames`) are those that occur in it. -/
theorem mem_messageNames_iff (name : String) : ∀ m : Message,
    name ∈ messageNames m ↔ ∃ use, Occurs m name use
  | [] => by simp [Occurs, not_within_nil]
  | n :: rest => by
    rw [messageNames_cons, List.mem_append, mem_nodeNames_iff name n,
      mem_messageNames_iff name rest, ← exists_or]
    exact exists_congr fun use => occurs_cons_iff.symm

end

/-- Whether a scope has a placeholder and a parameter for each of some names. -/
def Covers (scope : Scope) (names : List String) : Prop :=
  ∀ name ∈ names, (∃ p, scope.placeholder? name = some p) ∧ ∃ x, scope.parameter? name = some x

/-- A scope that covers `names` covers fewer of them. -/
theorem Covers.subset {scope : Scope} {names some : List String} (h : Covers scope names)
    (hsome : some ⊆ names) : Covers scope some :=
  fun name hname => h name (hsome hname)

/-- A scope covers (`Covers`) two lists of names if it covers each. -/
private theorem covers_append {scope : Scope} {names more : List String} :
    Covers scope (names ++ more) ↔ Covers scope names ∧ Covers scope more :=
  List.forall_mem_append

/-! ## Expressions exist -/

variable {scope : Scope} {texts : String → Prop}

/-- A reference to a name that is covered (`Covers`) has an expression. -/
private theorem exists_referenceExpr? {name : String} (h : Covers scope [name]) :
    ∃ e, referenceExpr? scope name = some e := by
  obtain ⟨⟨p, hp⟩, x, hx⟩ := h name (by simp)
  exact ⟨_, by rw [referenceExpr?, hp, hx]; rfl⟩

/-- So has an argument of such a name, of any `kind` and `skeleton`. -/
private theorem exists_argumentExpr? {name : String} (h : Covers scope [name]) (kind : ArgumentKind)
    (skeleton : Option String) : ∃ e, argumentExpr? scope name kind skeleton = some e := by
  obtain ⟨-, x, hx⟩ := h name (by simp)
  exact ⟨_, by unfold argumentExpr?; rw [hx]; rfl⟩

mutual

/-- A node whose names are covered has an expression (`nodeExpr?`). -/
theorem exists_nodeExpr? : ∀ n : Node, WellFormedNode texts n → Covers scope (nodeNames n) →
    ∃ e, nodeExpr? scope n = some e
  | .text value _, _, _ => ⟨.literal value, by rw [nodeExpr?]⟩
  | .reference name _, _, h => by
    rw [nodeNames] at h
    rw [nodeExpr?]
    exact exists_referenceExpr? h
  | .argument name kind skeleton _, _, h => by
    rw [nodeNames] at h
    rw [nodeExpr?]
    exact exists_argumentExpr? h kind skeleton
  | .choice kind name branches _, hwell, h => by
    rw [WellFormedNode] at hwell
    obtain ⟨-, hbranches, -, hother⟩ := hwell
    rw [nodeNames] at h
    obtain ⟨-, x, hx⟩ := h name (by simp)
    obtain ⟨cs, hcs⟩ := exists_branchExprs? kind branches hbranches
      (h.subset (List.subset_cons_self _ _))
    -- a choice compiles because one of its branches is `other`
    rw [← keys_branchExprs? hcs] at hother
    obtain ⟨other, ho⟩ := exists_wordValue? hother
    rw [nodeExpr?, hx, hcs]
    cases kind with
    | plural => exact ⟨_, by simp only [Option.bind_some, pluralExpr?, ho]; rfl⟩
    | select => exact ⟨_, by simp only [Option.bind_some, selectExpr?, ho]; rfl⟩

/-- Branches whose names are covered have expressions (`branchExprs?`). -/
theorem exists_branchExprs? (kind : ChoiceKind) : ∀ branches : List Branch,
    WellFormedBranches texts kind branches → Covers scope (branchNames branches) →
    ∃ cs, branchExprs? scope branches = some cs
  | [], _, _ => ⟨[], by rw [branchExprs?]⟩
  | .mk key message span :: rest, hwell, h => by
    obtain ⟨-, hmessage, hrest⟩ := (wellFormedBranches_cons ..).1 hwell
    rw [branchNames_cons, covers_append] at h
    obtain ⟨es, hes⟩ := exists_nodeExprs? message hmessage.1 h.1
    obtain ⟨cs, hcs⟩ := exists_branchExprs? kind rest hrest h.2
    exact ⟨⟨key, joinAll es⟩ :: cs, by rw [branchExprs?, hes, hcs]; rfl⟩

/-- Nodes whose names are covered have expressions (`nodeExprs?`). -/
theorem exists_nodeExprs? : ∀ nodes : List Node, WellFormedNodes texts nodes →
    Covers scope (messageNames nodes) → ∃ es, nodeExprs? scope nodes = some es
  | [], _, _ => ⟨[], by rw [nodeExprs?]⟩
  | n :: rest, hwell, h => by
    obtain ⟨hn, hrest⟩ := (wellFormedNodes_cons _ _).1 hwell
    rw [messageNames_cons, covers_append] at h
    obtain ⟨e, he⟩ := exists_nodeExpr? n hn h.1
    obtain ⟨es, hes⟩ := exists_nodeExprs? rest hrest h.2
    exact ⟨e :: es, by rw [nodeExprs?, he, hes]; rfl⟩

end

/-- A message whose names are covered (`Covers`) has an expression. -/
theorem messageExpr?_of_covers {m : Message} (hwell : WellFormed texts m)
    (h : Covers scope (messageNames m)) : ∃ e, messageExpr? scope m = some e := by
  obtain ⟨es, hes⟩ := exists_nodeExprs? m hwell.1 h
  exact ⟨joinAll es, by rw [messageExpr?, hes]; rfl⟩

end Parlance.Code
