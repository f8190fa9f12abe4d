import Parlance.Code.Plan
import Parlance.Proofs.Code.Image
import Parlance.Proofs.Code.Reads

/-!
# The local variables that a message reads

A name has a local variable in a scope if its value is formatted. The expression of a message reads
the local variables of the names that the message writes out, at any depth, and besides them only
parameters and names that all bodies use (`readsFor_messageExpr`).
-/

namespace Parlance.Code

open Parlance.Grammar

/-! ## Local variables -/

namespace Scope

variable (scope : Scope)

/-- The local variable of a name whose value is formatted. -/
def local? (name : String) : Option String :=
  ((scope.placeholder? name).filter scope.formatsPlaceholder).bind fun _ =>
    (scope.parameter? name).map formattedName

/-- Whether a name is a parameter, or one that all bodies use. -/
def Gives (x : String) : Prop :=
  x ∈ reservedParameters ∨ ∃ name, scope.parameter? name = some x

/-- Whether a name is the local variable of a name that a message writes out. -/
def IsLocal (m : Message) (x : String) : Prop :=
  ∃ name, Occurs m name .plain ∧ scope.local? name = some x

end Scope

/-- Whether an expression reads the local variables of a message, and else only what the scope
gives. -/
structure ReadsFor (scope : Scope) (m : Message) (e : Expr) : Prop where
  known : ∀ x ∈ e.reads, scope.Gives x ∨ scope.IsLocal m x
  used : ∀ x, scope.IsLocal m x → x ∈ e.reads

section

variable {scope : Scope} {x : String}

/-- A name has a local variable `x` if its placeholder is formatted and `x` is made of its
parameter. -/
theorem local?_eq_some_iff {name : String} :
    scope.local? name = some x ↔
      ∃ p, scope.placeholder? name = some p ∧ scope.formatsPlaceholder p = true ∧
        ∃ parameter, scope.parameter? name = some parameter ∧ formattedName parameter = x := by
  simp [Scope.local?, Option.bind_eq_some_iff, Option.filter_eq_some_iff, and_assoc]

/-- The local (`IsLocal`) variables of a message are those of its first node and of the rest. -/
private theorem isLocal_cons_iff {n : Node} {rest : Message} :
    scope.IsLocal (n :: rest) x ↔ scope.IsLocal [n] x ∨ scope.IsLocal rest x := by
  unfold Scope.IsLocal
  rw [← exists_or]
  exact exists_congr fun name => by rw [occurs_cons_iff, or_and_right]

/-- A node that writes nothing out has no local (`IsLocal`) variable. -/
private theorem not_isLocal_single {n : Node}
    (hn : ∀ kind name branches span, n ≠ .choice kind name branches span)
    (hplain : ∀ name, n.usage? ≠ some (name, .plain)) : ¬ scope.IsLocal [n] x := by
  rintro ⟨name, hname, -⟩
  exact hplain name ((occurs_single_iff hn).1 hname)

/-- A reference has the local (`IsLocal`) variable of its name, if there is one. -/
private theorem isLocal_reference_iff {name : String} {span : Span} :
    scope.IsLocal [.reference name span] x ↔ scope.local? name = some x := by
  simp [Scope.IsLocal, occurs_single_iff, Node.usage?]

/-- The name that a choice is made by is not written out (`IsLocal`), only those in its branches
are. -/
private theorem isLocal_choice_iff {kind : ChoiceKind} {name : String} {branches : List Branch}
    {span : Span} :
    scope.IsLocal [.choice kind name branches span] x ↔
      ∃ b ∈ branches, scope.IsLocal b.message x := by
  have hplain : ∀ other,
      (Node.choice kind name branches span).usage? ≠ some (other, .plain) := by
    cases kind <;> simp [Node.usage?]
  simp only [Scope.IsLocal, occurs_choice_iff, hplain, false_or]
  constructor
  · rintro ⟨other, ⟨b, hb, hoccurs⟩, hlocal⟩
    exact ⟨b, hb, other, hoccurs, hlocal⟩
  · rintro ⟨b, hb, other, hoccurs, hlocal⟩
    exact ⟨other, ⟨b, hb, hoccurs⟩, hlocal⟩

/-- A scope gives (`Gives`) the names that all bodies use. -/
private theorem gives_reserved (h : x ∈ reservedParameters) : scope.Gives x := .inl h

/-- A scope gives its parameters (`parameter?`). -/
private theorem gives_parameter {name : String} (h : scope.parameter? name = some x) :
    scope.Gives x :=
  .inr ⟨name, h⟩

/-! ## Messages -/

/-- A parameter made a string reads `str` and the parameter. -/
private theorem mem_reads_str {parameter : String} (h : IsVariable parameter) :
    x ∈ (Expr.call "str" false [.positional (.name parameter)]).reads ↔
      x = "str" ∨ x = parameter := by
  have hstr : readsOfPath "str" = ["str"] := by decide
  simp [Argument.positional, Expr.reads, readsOfArguments, readsOfPath_variable h, hstr]

/-- Text reads (`ReadsFor`) nothing. -/
private theorem readsFor_text (value : String) (span : Span) :
    ReadsFor scope [.text value span] (.literal value) where
  known := by simp [Expr.reads]
  used x hx := absurd hx (not_isLocal_single (by simp) (by simp [Node.usage?]))

/-- A reference reads (`ReadsFor`) the local variable of its name if it has one, and else its
parameter. -/
private theorem readsFor_referenceExpr {name : String} {e : Expr}
    (hdeclares : Declares scope [name]) (h : referenceExpr? scope name = some e) (span : Span) :
    ReadsFor scope [.reference name span] e := by
  rw [referenceExpr?] at h
  obtain ⟨p, hp, hmore⟩ := Option.bind_eq_some_iff.1 h
  obtain ⟨parameter, hparameter, rfl⟩ := Option.map_eq_some_iff.1 hmore
  obtain ⟨-, hvariable⟩ := hdeclares.isVariable List.mem_cons_self hparameter
  split
  · next hformats =>
    -- formatted: the local variable is all that is read
    have hlocal : ∀ x, scope.IsLocal [.reference name span] x ↔ x = formattedName parameter := by
      intro x
      rw [isLocal_reference_iff, local?_eq_some_iff]
      simp [hp, hformats, hparameter, @eq_comm _ x]
    have hreads : (Expr.name (formattedName parameter)).reads = [formattedName parameter] := by
      rw [Expr.reads, readsOfPath_variable (isVariable_formattedName hvariable)]
    constructor
    · intro x hx
      rw [hreads, List.mem_singleton] at hx
      exact .inr ((hlocal x).2 hx)
    · intro x hx
      rw [hreads, List.mem_singleton]
      exact (hlocal x).1 hx
  · next hformats =>
    -- not formatted: there is no local variable, and the parameter is read
    have hnone : ∀ x, ¬ scope.IsLocal [.reference name span] x := by
      intro x
      rw [isLocal_reference_iff, local?_eq_some_iff]
      simp [hp, hformats]
    refine ⟨fun x hx => .inl ?_, fun x hx => absurd hx (hnone x)⟩
    split at hx
    · rw [Expr.reads, readsOfPath_variable hvariable, List.mem_singleton] at hx
      exact hx ▸ gives_parameter hparameter
    · rcases (mem_reads_str hvariable).1 hx with rfl | rfl
      · exact gives_reserved (by decide)
      · exact gives_parameter hparameter

/-- A date or time reads (`ReadsFor`) its parameter and what all bodies use, whether it is formatted
or not. -/
private theorem readsFor_argumentExpr {name : String} {kind : ArgumentKind}
    {skeleton : Option String} {e : Expr} (hdeclares : Declares scope [name])
    (h : argumentExpr? scope name kind skeleton = some e) (span : Span) :
    ReadsFor scope [.argument name kind skeleton span] e := by
  unfold argumentExpr? at h
  obtain ⟨parameter, hparameter, rfl⟩ := Option.map_eq_some_iff.1 h
  obtain ⟨-, hvariable⟩ := hdeclares.isVariable List.mem_cons_self hparameter
  have hpath := readsOfPath_variable hvariable
  have hfunction : readsOfPath "runtime.format_datetime_skeleton" = ["runtime"] := by decide
  have htrue : readsOfPath "True" = [] := by decide
  have hnone : readsOfPath "None" = [] := by decide
  -- a date or time is formatted in place and has no local variable
  refine ⟨fun x hx => .inl ?_,
    fun x hx => absurd hx (not_isLocal_single (by simp) (by simp [Node.usage?]))⟩
  split at hx
  · have hor : x = "runtime" ∨ x = parameter ∨ x = "self" := by
      cases skeleton <;> cases kind <;>
        simpa [Argument.positional, Argument.named, Expr.reads, readsOfArguments,
          reads_localeName, hpath, hfunction, htrue, hnone] using hx
    rcases hor with rfl | rfl | rfl
    · exact gives_reserved (by decide)
    · exact gives_parameter hparameter
    · exact gives_reserved (by decide)
  · rcases (mem_reads_str hvariable).1 hx with rfl | rfl
    · exact gives_reserved (by decide)
    · exact gives_parameter hparameter

/-- A choice reads (`ReadsFor`) the local variables of its branches, for it reads what they read. -/
private theorem readsFor_choice {kind : ChoiceKind} {name : String} {branches : List Branch}
    {span : Span} {cs : List CompiledBranch}
    (hcs : List.Forall₂ (fun b c => ReadsFor scope b.message c.value) branches cs) {e : Expr}
    (hknown : ∀ x ∈ e.reads, scope.Gives x ∨ ∃ c ∈ cs, x ∈ c.value.reads)
    (hused : ∀ x, (∃ c ∈ cs, x ∈ c.value.reads) → x ∈ e.reads) :
    ReadsFor scope [.choice kind name branches span] e where
  known x hx := by
    rw [isLocal_choice_iff]
    -- the name that is chosen by is given; the others are read in a branch
    rcases hknown x hx with hgives | ⟨c, hc, hx⟩
    · exact .inl hgives
    · obtain ⟨b, hb, hbranch⟩ := exists_mem_of_forall₂ hcs hc
      exact (hbranch.known x hx).imp_right fun hlocal => ⟨b, hb, hlocal⟩
  used x hx := by
    obtain ⟨b, hb, hlocal⟩ := isLocal_choice_iff.1 hx
    obtain ⟨c, hc, hbranch⟩ := exists_mem_of_forall₂ hcs.flip hb
    exact hused x ⟨c, hc, hbranch.used x hlocal⟩

/-- The empty message reads (`ReadsFor`) nothing. -/
private theorem readsFor_nil : ReadsFor scope [] (joinAll []) where
  known := by simp [joinAll, Expr.reads]
  used := by
    rintro x ⟨name, hname, -⟩
    exact absurd hname (not_occurs_nil name .plain)

/-- A sum reads (`ReadsFor`) the local variables of all its nodes. -/
private theorem readsFor_cons {n : Node} {rest : Message} {e : Expr} {es : List Expr}
    (hfirst : ReadsFor scope [n] e) (hrest : ReadsFor scope rest (joinAll es)) :
    ReadsFor scope (n :: rest) (joinAll (e :: es)) := by
  -- a sum reads what its summands read
  have hreads : ∀ x, x ∈ (joinAll (e :: es)).reads ↔ x ∈ e.reads ∨ x ∈ (joinAll es).reads := by
    intro x
    rw [mem_reads_joinAll, mem_reads_joinAll]
    simp
  constructor
  · intro x hx
    rw [isLocal_cons_iff]
    rcases (hreads x).1 hx with hx | hx
    · exact (hfirst.known x hx).imp_right .inl
    · exact (hrest.known x hx).imp_right .inr
  · intro x hx
    exact (hreads x).2 ((isLocal_cons_iff.1 hx).imp (hfirst.used x) (hrest.used x))

variable {texts : String → Prop}

mutual

/-- The expression of a node (`nodeExpr?`) reads the local variables of the node. -/
theorem readsFor_nodeExpr : ∀ (n : Node) (e : Expr), WellFormedNode texts n →
    Declares scope (nodeNames n) → nodeExpr? scope n = some e → ReadsFor scope [n] e
  | .text value span, e, _, _, he => by
    rw [nodeExpr?] at he
    obtain rfl := Option.some.inj he
    exact readsFor_text value span
  | .reference name span, e, _, hdeclares, he => by
    rw [nodeNames] at hdeclares
    rw [nodeExpr?] at he
    exact readsFor_referenceExpr hdeclares he span
  | .argument name kind skeleton span, e, _, hdeclares, he => by
    rw [nodeNames] at hdeclares
    rw [nodeExpr?] at he
    exact readsFor_argumentExpr hdeclares he span
  | .choice kind name branches span, e, hwell, hdeclares, he => by
    rw [WellFormedNode] at hwell
    obtain ⟨-, hbranches, hkeys, hother⟩ := hwell
    rw [nodeNames] at hdeclares
    rw [nodeExpr?] at he
    obtain ⟨parameter, hparameter, hmore⟩ := Option.bind_eq_some_iff.1 he
    obtain ⟨cs, hcs, hchoice⟩ := Option.bind_eq_some_iff.1 hmore
    obtain ⟨-, hvariable⟩ := hdeclares.isVariable List.mem_cons_self hparameter
    have hreads := readsFor_branchExprs kind branches cs hbranches
      (hdeclares.subset (List.subset_cons_self _ _)) hcs
    have hchoiceOf := isChoice_of_branchExprs hbranches hkeys hother hcs
    -- besides its branches a choice reads its parameter, which is given and no local variable
    have hruntime : scope.Gives "runtime" := gives_reserved (by decide)
    have hself : scope.Gives "self" := gives_reserved (by decide)
    cases kind with
    | plural =>
      have hmem := fun x => mem_reads_pluralExpr (x := x) hchoiceOf hvariable hchoice
      refine readsFor_choice hreads (fun x hx => ?_) fun x hx =>
        (hmem x).2 (.inr (.inr (.inr hx)))
      rcases (hmem x).1 hx with rfl | rfl | rfl | hx
      · exact .inl hruntime
      · exact .inl (gives_parameter hparameter)
      · exact .inl hself
      · exact .inr hx
    | select =>
      have hmem := fun x => mem_reads_selectExpr (x := x) hchoiceOf hvariable hchoice
      refine readsFor_choice hreads (fun x hx => ?_) fun x hx => (hmem x).2 (.inr (.inr hx))
      rcases (hmem x).1 hx with rfl | rfl | hx
      · exact .inl hruntime
      · exact .inl (gives_parameter hparameter)
      · exact .inr hx

/-- The expressions of branches (`branchExprs?`) read the local variables of their messages. -/
theorem readsFor_branchExprs (kind : ChoiceKind) : ∀ (branches : List Branch)
    (cs : List CompiledBranch), WellFormedBranches texts kind branches →
    Declares scope (branchNames branches) → branchExprs? scope branches = some cs →
    List.Forall₂ (fun b c => ReadsFor scope b.message c.value) branches cs
  | [], cs, _, _, hcs => by
    rw [branchExprs?] at hcs
    obtain rfl := Option.some.inj hcs
    exact .nil
  | .mk key message span :: rest, cs, hwell, hdeclares, hcs => by
    obtain ⟨-, hmessage, hrest⟩ := (wellFormedBranches_cons ..).1 hwell
    rw [branchNames_cons] at hdeclares
    rw [branchExprs?] at hcs
    obtain ⟨es, hes, hmore⟩ := Option.bind_eq_some_iff.1 hcs
    obtain ⟨cs', hcs', rfl⟩ := Option.map_eq_some_iff.1 hmore
    -- what the message declares is enough for each of its parts
    exact .cons
      (readsFor_nodeExprs message es hmessage.1
        (hdeclares.subset (List.subset_append_left _ _)) hes)
      (readsFor_branchExprs kind rest cs' hrest
        (hdeclares.subset (List.subset_append_right _ _)) hcs')

/-- The sum of the expressions of nodes reads (`ReadsFor`) the local variables of the nodes. -/
theorem readsFor_nodeExprs : ∀ (nodes : List Node) (es : List Expr), WellFormedNodes texts nodes →
    Declares scope (messageNames nodes) → nodeExprs? scope nodes = some es →
    ReadsFor scope nodes (joinAll es)
  | [], es, _, _, hes => by
    rw [nodeExprs?] at hes
    obtain rfl := Option.some.inj hes
    exact readsFor_nil
  | n :: rest, es, hwell, hdeclares, hes => by
    obtain ⟨hn, hrest⟩ := (wellFormedNodes_cons _ _).1 hwell
    rw [messageNames_cons] at hdeclares
    rw [nodeExprs?] at hes
    obtain ⟨e, he, hmore⟩ := Option.bind_eq_some_iff.1 hes
    obtain ⟨es', hes', rfl⟩ := Option.map_eq_some_iff.1 hmore
    exact readsFor_cons
      (readsFor_nodeExpr n e hn (hdeclares.subset (List.subset_append_left _ _)) he)
      (readsFor_nodeExprs rest es' hrest (hdeclares.subset (List.subset_append_right _ _)) hes')

end

/-- The expression of a message (`messageExpr?`) reads the local variables of the names that the
message writes out, and else only parameters and what all bodies use. -/
theorem readsFor_messageExpr {m : Message} (hwell : WellFormed texts m)
    (hdeclares : Declares scope (messageNames m)) {e : Expr} (he : messageExpr? scope m = some e) :
    ReadsFor scope m e := by
  rw [messageExpr?] at he
  obtain ⟨es, hes, rfl⟩ := Option.map_eq_some_iff.1 he
  exact readsFor_nodeExprs m es hwell.1 hdeclares hes

end

end Parlance.Code
