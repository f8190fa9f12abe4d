import Mathlib.Data.Option.Basic
import Parlance.Proofs.Code.Emission
import Parlance.Proofs.Code.Locals
import Parlance.Proofs.Code.Parameters

/-!
# Bodies are well scoped

Names in a body are read and bound as what they stand for in the class (`nameInClass`). If the
parameters and the local variables for them are distinct identifiers there, the body of an accessor
assigns the local variables that its message needs, each once, and gives back an expression that
uses them all (`localsFit_body`). What it reads is bound where it is read, if this is so for the
parameters of number formats that it passes on, and only then (`scoped_body_iff`). In a plan this
holds of every accessor (`scoped_iff_of_make`).
-/

namespace Parlance.Code

open Parlance.Text

/-! ## Statements -/

/-- The local variable that a statement assigns. -/
def Statement.target? : Statement → Option String
  | .assign target _ => some target
  | _ => none

/-- The local variables that statements assign, in order. -/
def targets (statements : List Statement) : List String :=
  statements.filterMap Statement.target?

/-- Whether each statement reads only what is bound before it in the class: names bound from the
start, and the local variables that earlier statements assign. -/
def Scoped (className : String) (bound : List String) : List Statement → Prop
  | [] => True
  | s :: rest => (∀ x ∈ s.reads, nameInClass className x ∈ bound.map (nameInClass className)) ∧
      Scoped className (bound ++ s.target?.toList) rest

/-- The targets (`targets`) of a list are that of its first statement and those of the rest. -/
private theorem targets_cons (s : Statement) (rest : List Statement) :
    targets (s :: rest) = s.target?.toList ++ targets rest := by
  rw [targets, List.filterMap_cons]
  cases s.target? <;> rfl

/-- Statements in a row have their targets (`targets`) in a row. -/
private theorem targets_append (statements more : List Statement) :
    targets (statements ++ more) = targets statements ++ targets more :=
  List.filterMap_append

variable {className : String}

/-- Statements in a row are scoped (`Scoped`) if the later ones are with the targets of the earlier
ones bound. -/
private theorem scoped_append {statements more : List Statement} {bound : List String} :
    Scoped className bound (statements ++ more) ↔
      Scoped className bound statements ∧
        Scoped className (bound ++ targets statements) more := by
  induction statements generalizing bound with
  | nil => simp [Scoped, targets]
  | cons s rest ih =>
    rw [List.cons_append, Scoped, Scoped, ih, targets_cons, List.append_assoc, and_assoc]

/-- Statements that read none of the local variables that they assign may stand in any order
(`Scoped`). -/
private theorem scoped_iff_forall {statements : List Statement} {bound : List String}
    (h : ∀ s ∈ statements, ∀ x ∈ s.reads,
      nameInClass className x ∉ (targets statements).map (nameInClass className)) :
    Scoped className bound statements ↔
      ∀ s ∈ statements, ∀ x ∈ s.reads,
        nameInClass className x ∈ bound.map (nameInClass className) := by
  induction statements generalizing bound with
  | nil => simp [Scoped]
  | cons s rest ih =>
    obtain ⟨-, hrest⟩ := List.forall_mem_cons.1 h
    simp only [targets_cons, List.map_append, List.mem_append, not_or] at hrest
    rw [Scoped, List.forall_mem_cons, ih fun s' hs' x hx => (hrest s' hs' x hx).2]
    refine and_congr_right fun _ => forall₂_congr fun s' hs' => forall₂_congr fun x hx => ?_
    rw [List.map_append, List.mem_append, or_iff_left (hrest s' hs' x hx).1]

/-! ## The statements of a body -/

section

variable {scope : Scope} {m : Message} {statements : List Statement}

/-- A placeholder is formatted (`formattedPlaceholders?`) in a message if the message writes its
name out and the scope formats it. -/
theorem mem_formattedPlaceholders_iff {usages : Usages} {ps : List Resolved}
    (h : formattedPlaceholders? scope usages = some ps) {p : Resolved} :
    p ∈ ps ↔ ∃ u ∈ usages, u.2.plain = true ∧ scope.placeholder? u.1 = some p ∧
      scope.formatsPlaceholder p = true := by
  induction usages generalizing ps with
  | nil =>
    cases h
    simp
  | cons u rest ih =>
    obtain ⟨name, roles⟩ := u
    rw [formattedPlaceholders?] at h
    rw [List.exists_mem_cons_iff]
    split at h
    · -- the name is written out: its placeholder is looked up and kept if it is formatted
      next hplain =>
      obtain ⟨q, hq, hmore⟩ := Option.bind_eq_some_iff.1 h
      obtain ⟨qs, hqs, rfl⟩ := Option.map_eq_some_iff.1 hmore
      rw [← ih hqs]
      split
      · next hformats =>
        rw [List.mem_cons]
        refine or_congr_left ⟨?_, ?_⟩
        · rintro rfl
          exact ⟨hplain, hq, hformats⟩
        · rintro ⟨-, hp, -⟩
          exact Option.some.inj (hp.symm.trans hq)
      · next hformats =>
        -- not formatted, so not this one
        refine (or_iff_right ?_).symm
        rintro ⟨-, hp, hyes⟩
        cases hp.symm.trans hq
        exact hformats hyes
    · next hplain =>
      rw [ih h]
      exact (or_iff_right fun hyes => hplain hyes.1).symm

/-- The names of placeholders that are formatted (`formattedPlaceholders?`) stand in the order in
which they are used. -/
private theorem sublist_formattedPlaceholders {usages : Usages} {ps : List Resolved}
    (h : formattedPlaceholders? scope usages = some ps) :
    (ps.map (·.name)).Sublist (usages.map (·.1)) := by
  induction usages generalizing ps with
  | nil =>
    cases h
    exact .slnil
  | cons u rest ih =>
    obtain ⟨name, roles⟩ := u
    rw [formattedPlaceholders?] at h
    -- only a name that occurs plainly is looked up, and only if it needs formatting is it kept
    split at h
    · obtain ⟨q, hq, hmore⟩ := Option.bind_eq_some_iff.1 h
      obtain ⟨qs, hqs, rfl⟩ := Option.map_eq_some_iff.1 hmore
      split
      · rw [List.map_cons, List.map_cons, name_of_placeholder? hq]
        exact (ih hqs).cons_cons name
      · exact (ih hqs).cons name
    · exact (ih h).cons name

/-- In usages of distinct names, the roles of a name (`rolesOf`) are those recorded with it. -/
private theorem exists_plain_iff {usages : Usages} (hdistinct : (usages.map (·.1)).Nodup)
    {name : String} :
    (∃ u ∈ usages, u.2.plain = true ∧ u.1 = name) ↔ (usages.rolesOf name).plain = true := by
  rw [Usages.rolesOf]
  constructor
  · rintro ⟨u, hu, hplain, rfl⟩
    -- the name is listed once, so its entry is the one that is found
    obtain ⟨other, hfind, heq⟩ := Option.map_eq_some_iff.1 (Assoc.get?_of_mem hdistinct hu)
    simpa only [hfind, heq] using hplain
  · intro hplain
    split at hplain
    · next u hfind =>
      exact ⟨u, List.mem_of_find?_eq_some hfind, hplain, by simpa using List.find?_some hfind⟩
    · cases hplain

/-- The statement that formats the value of a placeholder. -/
def Scope.assignment (scope : Scope) (p : Resolved) : Statement :=
  .assign (formattedName (scope.parameterOf p.name)) (formatCall p (scope.parameterOf p.name))

/-- A body (`bodyOf`) formats the placeholders that need it and gives back the expression of the
message. -/
theorem eq_of_bodyOf (h : bodyOf scope m = .ok statements) :
    (Usages.collect [] m).2 = true ∧ ∃ ps value,
      formattedPlaceholders? scope (Usages.collect [] m).1 = some ps ∧
      messageExpr? scope m = some value ∧
      statements = ps.map scope.assignment ++ [.giveBack value] := by
  unfold bodyOf at h
  dsimp only at h
  split at h
  · cases h
  · -- the walk came to its end, so all uses are known
    next hcomplete =>
    split at h
    · next hsome =>
      cases h
      obtain ⟨ps, hps, hmore⟩ := Option.bind_eq_some_iff.1 hsome
      obtain ⟨formats, hformats, hlast⟩ := Option.bind_eq_some_iff.1 hmore
      obtain ⟨value, hvalue, rfl⟩ := Option.map_eq_some_iff.1 hlast
      refine ⟨by simpa using hcomplete, ps, value, hps, hvalue, ?_⟩
      rw [eq_map_of_mapM_eq_some (g := scope.assignment) (fun p s hs => ?_) hformats]
      obtain ⟨parameter, hparameter, rfl⟩ := Option.map_eq_some_iff.1 hs
      rw [Scope.assignment, Scope.parameterOf, hparameter]
      rfl
    · cases h

/-- Placeholders are assigned (`assignment`) to the local variables of their parameters. -/
private theorem targets_map_assignment (ps : List Resolved) :
    targets (ps.map scope.assignment) =
      ps.map fun p => formattedName (scope.parameterOf p.name) := by
  rw [targets, List.filterMap_map]
  exact List.filterMap_eq_map_iff_forall_eq_some.2 fun p _ => rfl

end

/-! ## Scopes whose parameters fit -/

/-- Whether the local variables of a body are those that its message needs. Each is made of a
parameter and, in the class that the body stands in, assigned once, and all of them are used where
the body gives back its value. One is assigned for just those placeholders that are written out and
formatted. -/
structure LocalsFit (className : String) (scope : Scope) (m : Message)
    (statements : List Statement) : Prop where
  formatted : ∀ x ∈ targets statements, ∃ parameter ∈ scope.parameters.values,
    x = formattedName parameter
  once : ((targets statements).map (nameInClass className)).Nodup
  used : ∃ (locals : List (String × Expr)) (value : Expr),
    statements = locals.map (fun l => .assign l.1 l.2) ++ [.giveBack value] ∧
      targets statements ⊆ value.reads
  needed : ∀ p ∈ scope.placeholders,
    nameInClass className (formattedName (scope.parameterOf p.name)) ∈
        (targets statements).map (nameInClass className) ↔
      scope.formats = true ∧ Occurs m p.name .plain ∧ p.requiresFormatting = true

/-- Whether the parameters of number formats that a body passes on are written without names, but
for what parameters stand for. A value is written with a name only where a number is not finite
(`readsOfValue_float`). -/
def OptionsFit (className : String) (scope : Scope) (m : Message) : Prop :=
  ∀ p ∈ scope.placeholders, Occurs m p.name .plain → scope.formatsPlaceholder p = true →
    ∀ o ∈ passedOptions p, ∀ x ∈ readsOfValue o.2,
      x ∈ scope.parameters.values.map (nameInClass className)

/-- What is bound in a body from the start. -/
def Scope.bound (scope : Scope) : List String := scope.parameters.values ++ reservedParameters

/-- Whether a body is well scoped in a class: its parameters fit, its local variables are those that
its message needs, and what it reads is bound where it is read. -/
structure WellScoped (className : String) (scope : Scope) (m : Message)
    (statements : List Statement) : Prop where
  parameters : ParametersFit (nameInClass className) scope.parameters
  locals : LocalsFit className scope m statements
  reads : Scoped className scope.bound statements

/-- Whether a scope has just the parameters of its placeholders, and these fit as they are
spelled. -/
structure Scope.Fits (scope : Scope) : Prop where
  parameters : ParametersFit id scope.parameters
  own : scope.placeholders.map (fun p => scope.parameter? p.name) =
    scope.parameters.values.map some

section

variable {scope : Scope} (h : scope.Fits)

include h

/-- The parameter (`parameter?`) of a placeholder is among the parameters. -/
private theorem parameter?_of_mem {p : Resolved} (hp : p ∈ scope.placeholders) :
    scope.parameter? p.name = some (scope.parameterOf p.name) ∧
      scope.parameterOf p.name ∈ scope.parameters.values := by
  have hmem : scope.parameter? p.name ∈ scope.parameters.values.map some :=
    h.own ▸ List.mem_map_of_mem hp
  obtain ⟨parameter, hparameter, heq⟩ := List.mem_map.1 hmem
  rw [Scope.parameterOf, ← heq, Option.getD_some]
  exact ⟨rfl, hparameter⟩

/-- No two placeholders share a local variable (`formattedName`). -/
private theorem eq_of_formattedName {p q : Resolved} (hp : p ∈ scope.placeholders)
    (hq : q ∈ scope.placeholders)
    (heq : formattedName (scope.parameterOf p.name) = formattedName (scope.parameterOf q.name)) :
    p = q := by
  -- the parameters are those of the placeholders in order, and they are distinct
  have hvalues := (List.nodup_append.1 h.parameters.distinct.of_map).1
  have hnodup : (scope.placeholders.map fun p => scope.parameter? p.name).Nodup :=
    h.own ▸ hvalues.map (Option.some_injective _)
  refine List.inj_on_of_nodup_map hnodup hp hq ?_
  rw [(parameter?_of_mem h hp).1, (parameter?_of_mem h hq).1, formattedName_injective heq]

/-- A placeholder (`placeholder?`) is found by its name. -/
private theorem placeholder?_iff {name : String} {p : Resolved} :
    scope.placeholder? name = some p ↔ p ∈ scope.placeholders ∧ p.name = name := by
  constructor
  · intro hfind
    exact ⟨List.mem_of_find?_eq_some hfind, name_of_placeholder? hfind⟩
  · rintro ⟨hp, rfl⟩
    obtain ⟨q, hq⟩ : ∃ q, scope.placeholder? p.name = some q := by
      rw [Scope.placeholder?, ← Option.isSome_iff_exists, List.find?_isSome]
      exact ⟨p, hp, beq_self_eq_true _⟩
    rw [hq, eq_of_formattedName h (List.mem_of_find?_eq_some hq) hp]
    rw [name_of_placeholder? hq]

/-- The placeholders that a message formats (`formattedPlaceholders?`) are those whose names it
writes out and that the scope formats. -/
private theorem mem_formatted_iff {m : Message} (hcomplete : (Usages.collect [] m).2 = true)
    {ps : List Resolved} (hps : formattedPlaceholders? scope (Usages.collect [] m).1 = some ps)
    {p : Resolved} :
    p ∈ ps ↔ p ∈ scope.placeholders ∧ Occurs m p.name .plain ∧
      scope.formatsPlaceholder p = true := by
  -- the roles are collected in this message alone, so a recorded role is one that occurs in it
  have htallies := tallies_nil.collect hcomplete
  have hplain : Occurs m p.name .plain ↔
      ∃ u ∈ (Usages.collect [] m).1, u.2.plain = true ∧ u.1 = p.name := by
    have hhas := htallies.has_iff p.name .plain
    rw [false_or] at hhas
    rw [exists_plain_iff htallies.nodup, ← hhas]
    rfl
  rw [mem_formattedPlaceholders_iff hps, hplain]
  simp only [placeholder?_iff h]
  constructor
  · rintro ⟨u, hu, hroles, ⟨hp, hname⟩, hformats⟩
    exact ⟨hp, ⟨u, hu, hroles, hname.symm⟩, hformats⟩
  · rintro ⟨hp, ⟨u, hu, hroles, hname⟩, hformats⟩
    exact ⟨u, hu, hroles, ⟨hp, hname.symm⟩, hformats⟩

variable {m : Message}

omit h in
/-- A body assigns the local variables (`targets`) of what it formats, and nothing else. -/
private theorem targets_body (ps : List Resolved) (value : Expr) :
    targets (ps.map scope.assignment ++ [.giveBack value]) =
      ps.map fun p => formattedName (scope.parameterOf p.name) := by
  rw [targets_append, targets_map_assignment]
  exact List.append_nil _

/-- The local (`IsLocal`) variables that the expression of a message reads are those that are
assigned. -/
private theorem isLocal_iff (hcomplete : (Usages.collect [] m).2 = true) {ps : List Resolved}
    (hps : formattedPlaceholders? scope (Usages.collect [] m).1 = some ps) {x : String} :
    scope.IsLocal m x ↔ x ∈ ps.map fun p => formattedName (scope.parameterOf p.name) := by
  simp only [Scope.IsLocal, local?_eq_some_iff, List.mem_map, mem_formatted_iff h hcomplete hps,
    placeholder?_iff h]
  constructor
  · rintro ⟨name, hplain, p, ⟨hp, rfl⟩, hformats, parameter, hparameter, rfl⟩
    refine ⟨p, ⟨hp, hplain, hformats⟩, ?_⟩
    rw [Scope.parameterOf, hparameter, Option.getD_some]
  · rintro ⟨p, ⟨hp, hplain, hformats⟩, rfl⟩
    exact ⟨p.name, hplain, p, ⟨hp, rfl⟩, hformats, _, (parameter?_of_mem h hp).1, rfl⟩

variable (hclass : ParametersFit (nameInClass className) scope.parameters)

include hclass

omit h in
/-- No two names of parameters and local variables stand for the same (`nameInClass`). -/
private theorem eq_of_nameInClass {x y : String}
    (hx : x ∈ scope.parameters.values ++ scope.parameters.values.map formattedName)
    (hy : y ∈ scope.parameters.values ++ scope.parameters.values.map formattedName)
    (heq : nameInClass className x = nameInClass className y) : x = y :=
  List.inj_on_of_nodup_map hclass.distinct hx hy heq

/-- A body assigns the local variables that its message needs (`LocalsFit`), and what it gives back
uses them. -/
theorem localsFit_body (hcomplete : (Usages.collect [] m).2 = true) {ps : List Resolved}
    (hps : formattedPlaceholders? scope (Usages.collect [] m).1 = some ps) {value : Expr}
    (hreads : ReadsFor scope m value) :
    LocalsFit className scope m (ps.map scope.assignment ++ [.giveBack value]) := by
  have hmem := fun p => mem_formatted_iff h hcomplete hps (p := p)
  have hformatted : ∀ p ∈ scope.placeholders, formattedName (scope.parameterOf p.name) ∈
      scope.parameters.values ++ scope.parameters.values.map formattedName := fun p hp =>
    List.mem_append_right _ (List.mem_map_of_mem (parameter?_of_mem h hp).2)
  constructor
  · -- each target is the local variable of a parameter of the scope
    intro x hx
    rw [targets_body] at hx
    obtain ⟨p, hp, rfl⟩ := List.mem_map.1 hx
    exact ⟨_, (parameter?_of_mem h ((hmem p).1 hp).1).2, rfl⟩
  · rw [targets_body, List.map_map]
    -- a name is used once in the list of uses, so no target comes twice
    have hnames := (tallies_nil.collect hcomplete).nodup.sublist (sublist_formattedPlaceholders hps)
    refine List.Nodup.map_on (fun p hp q hq heq => ?_) (hnames.of_map _)
    have hp := ((hmem p).1 hp).1
    have hq := ((hmem q).1 hq).1
    exact eq_of_formattedName h hp hq
      (eq_of_nameInClass hclass (hformatted p hp) (hformatted q hq) heq)
  · refine ⟨ps.map fun p => (formattedName (scope.parameterOf p.name),
      formatCall p (scope.parameterOf p.name)), value, by rw [List.map_map]; rfl, ?_⟩
    rw [targets_body]
    exact fun x hx => hreads.used x ((isLocal_iff h hcomplete hps).2 hx)
  · intro p hp
    rw [targets_body, List.map_map, List.mem_map]
    -- a placeholder is assigned if and only if it is written out and formatted
    have hformats : scope.formatsPlaceholder p = true ↔
        scope.formats = true ∧ p.requiresFormatting = true := by
      rw [Scope.formatsPlaceholder, Bool.and_eq_true]
    constructor
    · rintro ⟨q, hq, heq⟩
      obtain ⟨hplaceholder, hplain, hyes⟩ := (hmem q).1 hq
      obtain rfl := eq_of_formattedName h hplaceholder hp
        (eq_of_nameInClass hclass (hformatted q hplaceholder) (hformatted p hp) heq)
      exact ⟨(hformats.1 hyes).1, hplain, (hformats.1 hyes).2⟩
    · rintro ⟨hscope, hplain, hrequires⟩
      exact ⟨p, (hmem p).2 ⟨hp, hplain, hformats.2 ⟨hscope, hrequires⟩⟩, rfl⟩

/-! ## Bound names -/

omit h hclass in
/-- What a scope gives (`Gives`) is bound from the start. -/
private theorem mem_bound_of_gives {x : String} (hx : scope.Gives x) : x ∈ scope.bound := by
  rcases hx with hreserved | ⟨name, hparameter⟩
  · exact List.mem_append_right _ hreserved
  · obtain ⟨entry, hentry, rfl⟩ := Option.map_eq_some_iff.1 hparameter
    exact List.mem_append_left _ (List.mem_map_of_mem (List.mem_of_find?_eq_some hentry))

/-- No local variable is bound from the start (`Scope.bound`). -/
private theorem formattedName_not_mem_bound {parameter : String}
    (hparameter : parameter ∈ scope.parameters.values) :
    nameInClass className (formattedName parameter) ∉
      scope.bound.map (nameInClass className) := by
  have hmem : formattedName parameter ∈ scope.parameters.values.map formattedName :=
    List.mem_map_of_mem hparameter
  intro hbound
  obtain ⟨x, hx, heq⟩ := List.mem_map.1 hbound
  -- a name in scope is a parameter or one of the few that are reserved
  rcases List.mem_append.1 hx with hvalue | hreserved
  · obtain rfl := eq_of_nameInClass hclass (List.mem_append_left _ hvalue)
      (List.mem_append_right _ hmem) heq
    exact (List.disjoint_of_nodup_append h.parameters.distinct.of_map) hvalue hmem
  · have hshort : ∀ x ∈ reservedParameters, x.length < 10 := by decide
    rw [nameInClass_of_reserved hreserved] at heq
    exact nameInClass_formattedName_ne (hshort x hreserved) className parameter heq.symm

omit hclass in
/-- What formats a placeholder reads (`reads`) the parameter, names that all bodies use, and the
names that the parameters of the format are written with. -/
private theorem mem_reads_assignment_iff {p : Resolved} (hp : p ∈ scope.placeholders) {x : String} :
    x ∈ (scope.assignment p).reads ↔
      x ∈ ["runtime", scope.parameterOf p.name, "self"] ∨
        ∃ o ∈ passedOptions p, x ∈ readsOfValue o.2 := by
  have hvariable := h.parameters.isVariable _ (List.mem_append_left _ (parameter?_of_mem h hp).2)
  rw [Scope.assignment, Statement.reads, mem_reads_formatCall p hvariable]
  simp only [List.mem_cons, List.not_mem_nil, or_false, or_assoc]

omit hclass in
/-- What formats a placeholder of the scope is bound (`bound`) from the start. -/
private theorem call_subset_bound {p : Resolved} (hp : p ∈ scope.placeholders) :
    ["runtime", scope.parameterOf p.name, "self"] ⊆ scope.bound := by
  have hreserved : ∀ x ∈ ["runtime", "self"], x ∈ reservedParameters := by decide
  simp only [List.cons_subset, List.nil_subset, and_true]
  exact ⟨List.mem_append_right _ (hreserved _ (by simp)),
    List.mem_append_left _ (parameter?_of_mem h hp).2,
    List.mem_append_right _ (hreserved _ (by simp))⟩

omit h hclass in
/-- The names that a value is written with (`readsOfValue`) stand for themselves. They are no local
variables, and none that all bodies use. -/
private theorem free_of_mem_readsOfValue (className : String) {v : Value} {x : String}
    (hx : x ∈ readsOfValue v) : nameInClass className x = x ∧ x ∉ reservedParameters ∧
      ∀ parameter, nameInClass className (formattedName parameter) ≠ x := by
  have hshort : ∀ x ∈ ["inf", "nan", "set"],
      IsAscii x ∧ ¬ IsPrivate x ∧ x.length < 10 ∧ x ∉ reservedParameters := by decide
  obtain ⟨hascii, hpublic, hlength, hfree⟩ := hshort x (mem_of_mem_readsOfValue v hx)
  exact ⟨nameInClass_of_ascii hascii hpublic className, hfree,
    nameInClass_formattedName_ne hlength className⟩

/-- What formats a placeholder (`assignment`) reads no local variable. -/
private theorem formattedName_not_mem_assignment {p : Resolved} (hp : p ∈ scope.placeholders)
    {parameter x : String} (hparameter : parameter ∈ scope.parameters.values)
    (hx : x ∈ (scope.assignment p).reads) :
    nameInClass className (formattedName parameter) ≠ nameInClass className x := by
  intro heq
  rcases (mem_reads_assignment_iff h hp).1 hx with hcall | ⟨o, -, ho⟩
  · refine formattedName_not_mem_bound h hclass hparameter ?_
    exact heq ▸ List.mem_map_of_mem (call_subset_bound h hp hcall)
  · obtain ⟨hown, -, hlocal⟩ := free_of_mem_readsOfValue className ho
    exact hlocal parameter (heq.trans hown)

omit hclass in
/-- What formats a placeholder reads only what is bound from the start (`Scope.bound`) if and only
if the parameters of the format are written without names, but for those of parameters. -/
private theorem assignment_subset_bound_iff {p : Resolved} (hp : p ∈ scope.placeholders) :
    (∀ x ∈ (scope.assignment p).reads,
        nameInClass className x ∈ scope.bound.map (nameInClass className)) ↔
      ∀ o ∈ passedOptions p, ∀ x ∈ readsOfValue o.2,
        x ∈ scope.parameters.values.map (nameInClass className) := by
  -- the names that all bodies use are the same in every class
  have hreserved : reservedParameters.map (nameInClass className) = reservedParameters.map id :=
    List.map_congr_left fun x hx => nameInClass_of_reserved hx className
  rw [Scope.bound, List.map_append, hreserved, List.map_id]
  constructor
  · intro hsub o ho x hx
    have hbound := hsub x ((mem_reads_assignment_iff h hp).2 (.inr ⟨o, ho, hx⟩))
    obtain ⟨hown, hfree, -⟩ := free_of_mem_readsOfValue className hx
    rw [hown] at hbound
    exact (List.mem_append.1 hbound).resolve_right hfree
  · intro hoptions x hx
    rcases (mem_reads_assignment_iff h hp).1 hx with hcall | ⟨o, ho, hx⟩
    · have hbound : nameInClass className x ∈ scope.bound.map (nameInClass className) :=
        List.mem_map_of_mem (call_subset_bound h hp hcall)
      rwa [Scope.bound, List.map_append, hreserved, List.map_id] at hbound
    · rw [(free_of_mem_readsOfValue className hx).1]
      exact List.mem_append_left _ (hoptions o ho x hx)

/-- What a body reads is bound where it is read (`Scoped`) if and only if the parameters of number
formats that it passes on are written without names, but for those of parameters. -/
theorem scoped_body_iff (hcomplete : (Usages.collect [] m).2 = true) {ps : List Resolved}
    (hps : formattedPlaceholders? scope (Usages.collect [] m).1 = some ps) {value : Expr}
    (hreads : ReadsFor scope m value) :
    Scoped className scope.bound (ps.map scope.assignment ++ [.giveBack value]) ↔
      OptionsFit className scope m := by
  have hmem := fun p => mem_formatted_iff h hcomplete hps (p := p)
  -- no call reads a local variable, so the order of the calls does not matter
  have hfree : ∀ s ∈ ps.map scope.assignment, ∀ x ∈ s.reads,
      nameInClass className x ∉
        (targets (ps.map scope.assignment)).map (nameInClass className) := by
    intro s hs x hx htarget
    obtain ⟨p, hp, rfl⟩ := List.mem_map.1 hs
    rw [targets_map_assignment, List.map_map] at htarget
    obtain ⟨q, hq, heq⟩ := List.mem_map.1 htarget
    exact formattedName_not_mem_assignment h hclass ((hmem p).1 hp).1
      (parameter?_of_mem h ((hmem q).1 hq).1).2 hx heq
  -- the expression comes last, where all local variables are assigned
  have hlast : Scoped className (scope.bound ++ targets (ps.map scope.assignment))
      [.giveBack value] := by
    refine ⟨fun x hx => List.mem_map_of_mem ?_, trivial⟩
    rw [targets_map_assignment]
    rcases hreads.known x hx with hgives | hlocal
    · exact List.mem_append_left _ (mem_bound_of_gives hgives)
    · exact List.mem_append_right _ ((isLocal_iff h hcomplete hps).1 hlocal)
  rw [scoped_append, and_iff_left hlast, scoped_iff_forall hfree, List.forall_mem_map]
  constructor
  · intro hscoped p hp hplain hformats
    exact (assignment_subset_bound_iff h hp).1 (hscoped p ((hmem p).2 ⟨hp, hplain, hformats⟩))
  · intro hoptions p hp
    obtain ⟨hplaceholder, hplain, hformats⟩ := (hmem p).1 hp
    exact (assignment_subset_bound_iff h hplaceholder).2 (hoptions p hplaceholder hplain hformats)

end

/-! ## Plans -/

/-- What the names of a message of a member stand for in a locale. -/
def Plan.scope (plan : Plan) (locale : Locale) (m : Member) : Scope :=
  ⟨m.entry.placeholdersFor locale, m.parameters, plan.options.formats⟩

section

variable {entries : List Entry} {locales : List Locale} {templateLocale : Locale}
  {options : ModuleOptions} {plan : Plan}
  (h : Plan.make entries locales templateLocale options = .ok plan) {m : Member}
  (hm : m ∈ plan.members)

include h hm

/-- In a plan every accessor has just the parameters of its placeholders (`Scope.Fits`). -/
private theorem fits_of_make (locale : Locale) : (plan.scope locale m).Fits := by
  have hfits := parametersFit_of_make h hm
  have hparameters := parametersOf_of_make h hm
  have hkeys := nodup_keys_of_values hparameters (List.nodup_append.1 hfits.distinct.of_map).1
  refine ⟨hfits, ?_⟩
  -- the placeholders and the parameters are listed in one order
  calc (m.entry.placeholdersFor locale).map (fun p => m.parameters.get? p.name)
      = ((m.entry.placeholdersFor locale).map (·.name)).map m.parameters.get? := by
        rw [List.map_map]; rfl
    _ = m.parameters.map fun entry => m.parameters.get? entry.1 := by
        rw [m.entry.map_name_placeholdersFor, ← keys_of_parametersOf hparameters, Assoc.keys,
          List.map_map]; rfl
    _ = m.parameters.values.map some := by
        rw [Assoc.values, List.map_map]
        exact List.map_congr_left fun entry hentry => Assoc.get?_of_mem hkeys hentry

end

/-- The bodies of the accessors of a plan are well scoped (`WellScoped`), as far as the parameters
are. The parameters of an accessor and all local variables that there may be for them are distinct
variables as they are spelled, and none is a name that bodies use for something else; if the
parameters are of ASCII and begin with no underscore, they are distinct identifiers in every class.
Wherever a locale has a message there is a body, and it is well scoped if and only if the parameters
and the local variables are distinct identifiers in its class and the parameters of number formats
that it passes on are written without names, but for those of parameters. -/
theorem scoped_iff_of_make {entries : List Entry}
    (hbuilt : ∀ e ∈ entries, ∃ options template collection key,
      (Entry.build options template collection key).result = .ok e)
    {locales : List Locale} {templateLocale : Locale} {options : ModuleOptions} {plan : Plan}
    (hplan : Plan.make entries locales templateLocale options = .ok plan) {m : Member}
    (hm : m ∈ plan.members) {locale : Locale} {message : Message}
    (hmessage : m.entry.messageFor? locale = some message) (className : String) :
    ParametersFit id m.parameters ∧
    ((∀ x ∈ m.parameters.values, IsAscii x ∧ x.toList.head? ≠ some '_') →
      ParametersFit (nameInClass className) m.parameters) ∧
    ∃ statements, statementsFor plan locale m = .ok statements ∧
      (WellScoped className (plan.scope locale m) message statements ↔
        ParametersFit (nameInClass className) m.parameters ∧
          OptionsFit className (plan.scope locale m) message) := by
  have hcoherent : ∀ e ∈ entries, e.Coherent := by
    intro e he
    obtain ⟨entryOptions, template, collection, key, hbuild⟩ := hbuilt e he
    exact Entry.coherent_of_build hbuild
  obtain ⟨⟨texts, hwell⟩, hnesting, hnames⟩ :=
    wellFormed_of_coherent (coherent_of_mem hplan hcoherent hm) hmessage
  have hdeclares : Declares (plan.scope locale m) (messageNames message) :=
    (declares_of_make hplan hm locale).subset hnames
  obtain ⟨formats, e, -, hbody⟩ := bodyOf_eq hwell hnesting hdeclares.1
  obtain ⟨hcomplete, ps, value, hps, hvalue, heq⟩ := eq_of_bodyOf hbody
  -- what the value at the end reads is known from the message
  have hreads := readsFor_messageExpr hwell hdeclares hvalue
  have hfits := fits_of_make hplan hm locale
  refine ⟨hfits.parameters, fun hnames => hfits.parameters.inClass hnames className,
    formats ++ [.giveBack e], ?_, ?_⟩
  · rw [statementsFor, hmessage]
    exact hbody
  · rw [heq]
    constructor
    · rintro ⟨hparameters, -, hscoped⟩
      exact ⟨hparameters, (scoped_body_iff hfits hparameters hcomplete hps hreads).1 hscoped⟩
    · rintro ⟨hparameters, hoptions⟩
      exact ⟨hparameters, localsFit_body hfits hparameters hcomplete hps hreads,
        (scoped_body_iff hfits hparameters hcomplete hps hreads).2 hoptions⟩

/-- The locale of the price. -/
def priceLocale : Locale := ⟨"en", none, none, "en"⟩

/-- A template with a price, whose format is passed a number of digits. -/
def priceTemplate (digits : Value) : Bundle :=
  ⟨"l10n/app_en.arb", priceLocale,
    [("total", .text "{price}"),
     ("@total", .object [("placeholders", .object
       [("price", .object [("type", .text "double"), ("format", .text "currency"),
         ("optionalParameters", .object [("decimalDigits", digits)])])])])]⟩

/-- The placeholder of the price. -/
def pricePlaceholder (digits : Value) : Resolved :=
  ⟨⟨"price", some .double, some "currency", none, [("decimalDigits", digits)], none⟩, .double,
    false, false, false, false, false⟩

/-- The entry of the price. -/
def priceEntry (digits : Value) : Entry where
  key := "total"
  reference := "{price}"
  description := none
  context := none
  renditions :=
    [⟨priceLocale, "app_en.arb", some "{price}", some [.reference "price" ⟨0, 7⟩], []⟩]
  placeholders := [pricePlaceholder digits]
  hadErrors := false

/-- The message of the price. -/
def priceMessage : Message := [.reference "price" ⟨0, 7⟩]

/-- Inference keeps the declaration of the price (`pricePlaceholder`). -/
private theorem inferPlaceholders_price (digits : Value) :
    inferPlaceholders "total" [(pricePlaceholder digits).declared] ([] : List (Locale × _))
      [priceMessage] = .ok ⟨[pricePlaceholder digits], []⟩ := by
  have husages : Inferred.usagesOf [] [priceMessage] =
      .ok [("price", { Roles.none with plain := true })] := by decide +kernel
  have hundeclared : Inferred.undeclaredNames [(pricePlaceholder digits).declared]
      [("price", { Roles.none with plain := true })] = [] := by
    rw [undeclaredNames_eq_insertionSort]
    rfl
  -- the declaration is resolved as it is, and nothing else is used
  refine bind_eq_ok_iff.2 ⟨_, husages, bind_eq_ok_iff.2 ⟨[pricePlaceholder digits], ?_, rfl⟩⟩
  refine bind_eq_ok_iff.2 ⟨[pricePlaceholder digits], mapM_eq_ok_iff.2 (.cons rfl .nil), ?_⟩
  rw [hundeclared]
  rfl

/-- The entry of the price (`priceEntry`) is built, whatever its digits are. -/
theorem build_price (digits : Value) :
    (Entry.build .standard (priceTemplate digits) ⟨"l10n", [priceTemplate digits]⟩ "total").result =
      .ok (priceEntry digits) := by
  have hmessage : (Entry.messageOf .standard ⟨none, none, [(pricePlaceholder digits).declared]⟩
      "total" (priceTemplate digits) true (some "{price}")).result =
        .ok ⟨some priceMessage, false⟩ := by
    have hparse : Message.parse .standard "{price}" = .ok priceMessage := by decide +kernel
    have hoptions : Entry.readingOptions .standard
        ⟨none, none, [(pricePlaceholder digits).declared]⟩ = .standard := rfl
    rw [Entry.messageOf, hoptions, hparse]
    rfl
  have hfilename : (priceTemplate digits).filename = "app_en.arb" := by
    change Path.nameOf "l10n/app_en.arb" = "app_en.arb"
    decide +kernel
  -- the template declares nothing anew
  have hdraft : (Entry.draft .standard (priceTemplate digits) "{price}"
      ⟨none, none, [(pricePlaceholder digits).declared]⟩ "total" (priceTemplate digits)).result =
      .ok ⟨⟨priceLocale, "app_en.arb", some "{price}", some priceMessage, []⟩, [], false⟩ :=
    Logged.bind_result_eq_ok_iff.2 ⟨_, rfl, Logged.bind_result_eq_ok_iff.2
      ⟨_, rfl, Logged.bind_result_eq_ok_iff.2 ⟨_, hmessage, by rw [hfilename]; rfl⟩⟩⟩
  refine Logged.bind_result_eq_ok_iff.2 ⟨"{price}", rfl, Logged.bind_result_eq_ok_iff.2
    ⟨⟨none, none, [(pricePlaceholder digits).declared]⟩, rfl, Logged.bind_result_eq_ok_iff.2
      ⟨_, Logged.traverse_result_eq_ok_iff.2 (.cons hdraft .nil), ?_⟩⟩⟩
  exact mapError_eq_ok_iff.2 (map_eq_ok_iff.2 ⟨_, inferPlaceholders_price digits, rfl⟩)

/-- The plan of a module with the price (`priceEntry`) has one accessor, with one parameter. -/
theorem members_of_make_price {digits : Value} {plan : Plan}
    (h : Plan.make [priceEntry digits] [priceLocale] priceLocale .standard = .ok plan) :
    ∃ m ∈ plan.members, m.entry = priceEntry digits ∧ m.parameters = [("price", "price")] := by
  obtain ⟨m, hm, hentry⟩ : ∃ m ∈ plan.members, m.entry = priceEntry digits := by
    rw [← List.mem_map, map_entry_of_make h]
    exact List.mem_cons_self
  -- the name is an identifier already
  have hidentifier : identifierOf "placeholder" "price" reservedParameters = .ok "price" := by
    decide +kernel
  have hown : Plan.parametersOf (priceEntry digits).placeholders = .ok [("price", "price")] :=
    bind_eq_ok_iff.2 ⟨_, hidentifier, rfl⟩
  have hparameters := parametersOf_of_make h hm
  rw [hentry, hown] at hparameters
  exact ⟨m, hm, hentry, (Except.ok.inj hparameters).symm⟩

/-- The price has a message (`messageFor?`) in its locale. -/
theorem messageFor?_price (digits : Value) :
    (priceEntry digits).messageFor? priceLocale = some priceMessage := by
  rfl

/-- Digits that are a number make a body that is well scoped (`WellScoped`). -/
theorem scoped_iff_of_make_price :
    (Entry.build .standard (priceTemplate (.int 2)) ⟨"l10n", [priceTemplate (.int 2)]⟩
      "total").result = .ok (priceEntry (.int 2)) ∧
    ∃ plan, Plan.make [priceEntry (.int 2)] [priceLocale] priceLocale .standard = .ok plan ∧
      ∃ m ∈ plan.members, m.entry.messageFor? priceLocale = some priceMessage ∧
        ∃ statements, statementsFor plan priceLocale m = .ok statements ∧
          WellScoped "AppLocalizationsEn" (plan.scope priceLocale m) priceMessage statements := by
  have hmake : (Plan.make [priceEntry (.int 2)] [priceLocale] priceLocale .standard).map
      (fun plan => plan.members.length) = .ok 1 := by
    decide +kernel
  obtain ⟨plan, hplan, -⟩ := map_eq_ok_iff.1 hmake
  obtain ⟨m, hm, hentry, hparameters⟩ := members_of_make_price hplan
  have hbuilt : ∀ e ∈ [priceEntry (.int 2)], ∃ options template collection key,
      (Entry.build options template collection key).result = .ok e := by
    simpa using ⟨_, _, _, _, build_price (.int 2)⟩
  have hmessage : m.entry.messageFor? priceLocale = some priceMessage := by
    rw [hentry]
    exact messageFor?_price (.int 2)
  have hoptions : OptionsFit "AppLocalizationsEn" (plan.scope priceLocale m) priceMessage := by
    intro p hp _ _ o ho x hx
    rw [Plan.scope, hentry] at hp
    obtain rfl := List.mem_singleton.1 hp
    obtain rfl := List.mem_singleton.1 ho
    -- the digits are a number, which reads no name
    simp [readsOfValue] at hx
  have hnames : ∀ x ∈ m.parameters.values, IsAscii x ∧ x.toList.head? ≠ some '_' := by
    rw [hparameters]
    decide
  obtain ⟨-, hclass, statements, hstatements, hscoped⟩ :=
    scoped_iff_of_make hbuilt hplan hm hmessage "AppLocalizationsEn"
  exact ⟨build_price (.int 2), plan, hplan, m, hm, hmessage, statements, hstatements,
    hscoped.2 ⟨hclass hnames, hoptions⟩⟩

/-- The text `1e999` of a number is beyond all numbers, and such a number is written as a word,
which the accessor does not bind in any class. -/
theorem not_scoped_infiniteDigits :
    (Entry.build .standard (priceTemplate (.float (.infinite false)))
      ⟨"l10n", [priceTemplate (.float (.infinite false))]⟩ "total").result =
        .ok (priceEntry (.float (.infinite false))) ∧
    ∃ plan, Plan.make [priceEntry (.float (.infinite false))] [priceLocale] priceLocale .standard =
        .ok plan ∧
      ∃ m ∈ plan.members, m.entry.messageFor? priceLocale = some priceMessage ∧
        ∃ statements, statementsFor plan priceLocale m = .ok statements ∧
          ∀ className,
            ¬ WellScoped className (plan.scope priceLocale m) priceMessage statements := by
  have hmake : (Plan.make [priceEntry (.float (.infinite false))] [priceLocale] priceLocale
      .standard).map (fun plan => plan.members.length) = .ok 1 := by
    decide +kernel
  obtain ⟨plan, hplan, -⟩ := map_eq_ok_iff.1 hmake
  obtain ⟨m, hm, hentry, hparameters⟩ := members_of_make_price hplan
  have hmessage : m.entry.messageFor? priceLocale = some priceMessage := by
    rw [hentry]
    exact messageFor?_price _
  have hbody : statementsFor plan priceLocale m = .ok
      [.assign "price_formatted" (formatCall (pricePlaceholder (.float (.infinite false))) "price"),
        .giveBack (.name "price_formatted")] := by
    rw [statementsFor, hmessage, hentry, hparameters, (options_of_make hplan).1]
    rfl
  refine ⟨build_price _, plan, hplan, m, hm, hmessage, _, hbody, fun className hscoped => ?_⟩
  have hread : "inf" ∈ (formatCall (pricePlaceholder (.float (.infinite false))) "price").reads :=
    (mem_reads_formatCall _ (by decide)).2 (.inr (.inr (.inr
      ⟨("decimalDigits", .float (.infinite false)), List.mem_cons_self, by decide⟩)))
  have hbound := hscoped.reads.1 "inf" hread
  -- all names are of ASCII, and none is private
  have hplain : ∀ x ∈ "inf" :: "price" :: reservedParameters, IsAscii x ∧ ¬ IsPrivate x := by
    decide
  have hsame : ∀ x ∈ "inf" :: "price" :: reservedParameters, nameInClass className x = id x :=
    fun x hx => nameInClass_of_ascii (hplain x hx).1 (hplain x hx).2 className
  have hnames : (plan.scope priceLocale m).bound = "price" :: reservedParameters := by
    rw [Scope.bound, Plan.scope, hparameters]
    rfl
  rw [hnames, List.map_congr_left fun x hx => hsame x (List.mem_cons_of_mem _ hx), List.map_id,
    hsame "inf" List.mem_cons_self] at hbound
  revert hbound
  decide

end Parlance.Code
