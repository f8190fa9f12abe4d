import Mathlib.Data.List.Nodup
import Mathlib.Data.List.Sort
import Mathlib.Data.String.Basic
import Parlance.Proofs.Message.Walking
import Parlance.Proofs.Placeholder.Rules
import Parlance.Proofs.Results

/-!
# Inference follows the rules of placeholders

Inference succeeds if and only if every name that is declared or occurs in a message is declared as
the rules ask. Then the placeholders of the template are the declared names in their order and
after them the others in alphabetical order, and each says what its declaration and its uses in all
messages say (`exists_inferPlaceholders_iff`).
-/

namespace Parlance

open Parlance.Grammar

/-- The declaration of a name; a name that is not declared has the bare one. -/
def declarationOf (declared : List Declared) (name : String) : Declared :=
  (declared.find? (·.name == name)).getD (.bare name)

/-- Whether a name is declared or occurs in some message. -/
def IsPlaceholder (declared : List Declared) (messages : List Message) (name : String) : Prop :=
  name ∈ declared.map (·.name) ∨ ∃ use, UsedIn messages name use

/-- The messages of the locales that have one. -/
def presentMessages {κ : Type} (asts : List (κ × Option Message)) : List Message :=
  asts.filterMap (·.2)

/-! ## Declarations of names -/

section

variable {declared : List Declared}

/-- A declared (`declarationOf`) name has its declaration. -/
private theorem declarationOf_of_mem (hdistinct : (declared.map (·.name)).Nodup) {d : Declared}
    (hd : d ∈ declared) : declarationOf declared d.name = d := by
  induction declared with
  | nil => cases hd
  | cons first rest ih =>
    obtain ⟨hfirst, hrest⟩ := List.nodup_cons.1 hdistinct
    rcases List.mem_cons.1 hd with rfl | hd
    · simp [declarationOf]
    · have hne : first.name ≠ d.name := fun h => hfirst (List.mem_map.2 ⟨d, hd, h.symm⟩)
      simpa [declarationOf, hne] using ih hrest hd

/-- A name that is not declared (`declarationOf`) has a bare declaration. -/
private theorem declarationOf_of_not_mem {name : String} (h : name ∉ declared.map (·.name)) :
    declarationOf declared name = .bare name := by
  have hnone : declared.find? (·.name == name) = none := by
    simpa using h
  rw [declarationOf, hnone]
  rfl

end

/-! ## Uses are collected -/

/-- The uses in messages (`usagesOf`) are collected, if none is nested deeper than messages are. -/
theorem exists_usagesOf {messages : List Message}
    (h : ∀ m ∈ messages, nestingOfNodes m ≤ ReadingOptions.defaultLimit.toNat)
    (usages : Usages) : ∃ all, Inferred.usagesOf usages messages = .ok all := by
  induction messages generalizing usages with
  | nil => exact ⟨usages, rfl⟩
  | cons m rest ih =>
    obtain ⟨hm, hrest⟩ := List.forall_mem_cons.1 h
    simp only [Inferred.usagesOf, complete_collect usages hm, if_true]
    exact ih hrest _

/-! ## Names that are not declared -/

/-- Items with distinct keys that are sorted by their keys have them in strict order. -/
theorem pairwise_lt_mergeSort {α : Type} {key : α → String} {items : List α}
    (h : (items.map key).Nodup) :
    (items.mergeSort fun a b => decide (key a ≤ key b)).Pairwise fun a b => key a < key b := by
  have hsorted : (items.mergeSort fun a b => decide (key a ≤ key b)).Pairwise
      fun a b => decide (key a ≤ key b) = true := by
    apply List.pairwise_mergeSort
    · intro a b c hab hbc
      exact decide_eq_true (le_trans (of_decide_eq_true hab) (of_decide_eq_true hbc))
    · intro a b
      simpa using le_total (key a) (key b)
  have hdistinct : ((items.mergeSort fun a b => decide (key a ≤ key b)).map key).Nodup :=
    ((List.mergeSort_perm _ _).map key).nodup_iff.2 h
  -- sorting leaves equal keys side by side, of which there are none
  apply hsorted.imp₂ _ (List.pairwise_map.1 hdistinct)
  intro a b hle hne
  exact lt_of_le_of_ne (of_decide_eq_true hle) hne

/-- The undeclared names (`undeclaredNames`) can be sorted by insertion. Sorting by insertion is
structural recursion, so evaluation gets through it. -/
theorem undeclaredNames_eq_insertionSort (declared : List Declared) (usages : Usages) :
    Inferred.undeclaredNames declared usages =
      ((usages.map (·.1)).filter fun n => !declared.any (·.name == n)).insertionSort (· ≤ ·) :=
  List.mergeSort_eq_insertionSort (· ≤ ·) _

section

variable {usages : Usages} {occurs : String → Use → Prop} (htallies : Tallies usages occurs)

include htallies

/-- The undeclared names (`undeclaredNames`) are those that occur and are not declared. -/
theorem mem_undeclaredNames_iff (declared : List Declared) (name : String) :
    name ∈ Inferred.undeclaredNames declared usages ↔
      name ∉ declared.map (·.name) ∧ ∃ use, occurs name use := by
  rw [Inferred.undeclaredNames, List.mem_mergeSort, List.mem_filter, htallies.mem_iff, and_comm]
  simp

/-- The names that are not declared (`undeclaredNames`) are in alphabetical order, each once. -/
theorem pairwise_undeclaredNames (declared : List Declared) :
    (Inferred.undeclaredNames declared usages).Pairwise (· < ·) := by
  have hnodup := htallies.nodup.filter fun n => !declared.any (·.name == n)
  rw [← List.map_id ((usages.map (·.1)).filter _)] at hnodup
  exact pairwise_lt_mergeSort hnodup

variable {declared : List Declared}

/-! ## The placeholders of the template -/

/-- The template (`templateOf`) has the declared placeholders and then the others, each of them
settled, and every declaration is admissible. -/
theorem templateOf_eq_ok_iff (key : String) (template : List Resolved) :
    Inferred.templateOf key declared usages = .ok template ↔
      ∃ first second, template = first ++ second ∧
        List.Forall₂ (fun d p => Admissible (occurs d.name) d ∧ Settled (occurs d.name) d False p)
          declared first ∧
        List.Forall₂ (fun name p => Admissible (occurs name) (.bare name) ∧
          Settled (occurs name) (.bare name) True p)
          (Inferred.undeclaredNames declared usages) second := by
  have hresolve := fun d isNew p (name : String) =>
    ofRoles_eq_ok_iff (d := d) (htallies.has_iff name) key isNew p
  rw [Inferred.templateOf]
  simp only [bind_eq_ok_iff, map_eq_ok_iff, mapM_eq_ok_iff, hresolve, Bool.false_eq_true]
  constructor
  · rintro ⟨first, hfirst, second, hsecond, rfl⟩
    exact ⟨first, second, rfl, hfirst, hsecond⟩
  · rintro ⟨first, second, rfl, hfirst, hsecond⟩
    exact ⟨first, hfirst, second, hsecond, rfl⟩

/-- There is a template (`templateOf`) if and only if all declarations are admissible. -/
theorem exists_templateOf_iff (key : String) :
    (∃ template, Inferred.templateOf key declared usages = .ok template) ↔
      (∀ d ∈ declared, Admissible (occurs d.name) d) ∧
        ∀ name ∈ Inferred.undeclaredNames declared usages,
          Admissible (occurs name) (.bare name) := by
  have hdeclared := fun d : Declared =>
    exists_ofRoles_iff (d := d) (htallies.has_iff d.name) key false
  have hother := fun name : String =>
    exists_ofRoles_iff (d := .bare name) (htallies.has_iff name) key true
  refine Iff.trans ?_ (and_congr (forall₂_congr fun d _ => hdeclared d)
    (forall₂_congr fun name _ => hother name))
  -- the list can be made if each of its placeholders can
  rw [Inferred.templateOf, ← exists_forall₂_iff, ← exists_forall₂_iff]
  simp only [bind_eq_ok_iff, map_eq_ok_iff, mapM_eq_ok_iff]
  constructor
  · rintro ⟨_, first, hfirst, second, hsecond, -⟩
    exact ⟨⟨first, hfirst⟩, second, hsecond⟩
  · rintro ⟨⟨first, hfirst⟩, second, hsecond⟩
    exact ⟨_, first, hfirst, second, hsecond, rfl⟩

/-- The names in the template (`templateOf`) are the declared ones and after them the others. -/
theorem names_templateOf {key : String} {template : List Resolved}
    (h : Inferred.templateOf key declared usages = .ok template) :
    template.map (·.name) =
      declared.map (·.name) ++ Inferred.undeclaredNames declared usages := by
  obtain ⟨first, second, rfl, hfirst, hsecond⟩ := (templateOf_eq_ok_iff htallies key template).1 h
  have hnames : declared.map (·.name) = first.map (·.name) :=
    map_eq_map_of_forall₂ hfirst fun d p hp => by rw [Resolved.name, hp.2.declared]
  have hothers : (Inferred.undeclaredNames declared usages).map id = second.map (·.name) :=
    map_eq_map_of_forall₂ hsecond fun name p hp => by rw [Resolved.name, hp.2.declared]; rfl
  rw [List.map_append, hnames, ← hothers, List.map_id]

/-- All declarations are admissible (`Admissible`) if and only if that of every placeholder is. -/
theorem forall_admissible_iff (hdistinct : (declared.map (·.name)).Nodup) :
    ((∀ d ∈ declared, Admissible (occurs d.name) d) ∧
        ∀ name ∈ Inferred.undeclaredNames declared usages,
          Admissible (occurs name) (.bare name)) ↔
      ∀ name, (name ∈ declared.map (·.name) ∨ ∃ use, occurs name use) →
        Admissible (occurs name) (declarationOf declared name) := by
  have hundeclared := mem_undeclaredNames_iff htallies declared
  constructor
  · rintro ⟨hall, hothers⟩ name hname
    -- A name is declared or among the undeclared ones, each with the declaration that counts for
    -- it.
    by_cases hmem : name ∈ declared.map (·.name)
    · obtain ⟨d, hd, rfl⟩ := List.mem_map.1 hmem
      rw [declarationOf_of_mem hdistinct hd]
      exact hall d hd
    · rw [declarationOf_of_not_mem hmem]
      exact hothers name ((hundeclared name).2 ⟨hmem, hname.resolve_left hmem⟩)
  · intro h
    constructor
    · intro d hd
      have hname := h d.name (.inl (List.mem_map_of_mem hd))
      rwa [declarationOf_of_mem hdistinct hd] at hname
    · intro name hmem
      obtain ⟨hnot, huse⟩ := (hundeclared name).1 hmem
      have hname := h name (.inr huse)
      rwa [declarationOf_of_not_mem hnot] at hname

/-- Every placeholder of the template (`templateOf`) is settled by some declaration, which is
admissible, and the uses of its name. -/
theorem exists_admissible_of_mem_templateOf {key : String} {template : List Resolved}
    (h : Inferred.templateOf key declared usages = .ok template) {p : Resolved}
    (hp : p ∈ template) :
    ∃ d isNew, Admissible (occurs p.name) d ∧ Settled (occurs p.name) d isNew p := by
  obtain ⟨first, second, rfl, hfirst, hsecond⟩ := (templateOf_eq_ok_iff htallies key template).1 h
  rcases List.mem_append.1 hp with hp | hp
  · obtain ⟨d, -, hd⟩ := exists_mem_of_forall₂ hfirst hp
    have hname : p.name = d.name := by rw [Resolved.name, hd.2.declared]
    exact ⟨d, False, hname ▸ hd⟩
  · obtain ⟨name, -, hother⟩ := exists_mem_of_forall₂ hsecond hp
    have hname : p.name = name := by rw [Resolved.name, hother.2.declared, Declared.bare]
    exact ⟨.bare name, True, hname ▸ hother⟩

/-- Every placeholder of the template (`templateOf`) is settled by some declaration and the uses of
its name. -/
theorem exists_settled_of_mem_templateOf {key : String} {template : List Resolved}
    (h : Inferred.templateOf key declared usages = .ok template) {p : Resolved}
    (hp : p ∈ template) : ∃ d isNew, Settled (occurs p.name) d isNew p := by
  obtain ⟨d, isNew, -, hsettled⟩ := exists_admissible_of_mem_templateOf htallies h hp
  exact ⟨d, isNew, hsettled⟩

/-- Every placeholder of the template (`templateOf`) is settled by the declaration and the uses of
its name. -/
theorem settled_of_mem_templateOf (hdistinct : (declared.map (·.name)).Nodup) {key : String}
    {template : List Resolved} (h : Inferred.templateOf key declared usages = .ok template)
    {p : Resolved} (hp : p ∈ template) :
    Settled (occurs p.name) (declarationOf declared p.name) (p.name ∉ declared.map (·.name)) p := by
  obtain ⟨first, second, rfl, hfirst, hsecond⟩ := (templateOf_eq_ok_iff htallies key template).1 h
  -- The declared placeholders come first, then those that are only used.
  rcases List.mem_append.1 hp with hp | hp
  · obtain ⟨d, hd, -, hsettled⟩ := exists_mem_of_forall₂ hfirst hp
    have hname : p.name = d.name := by rw [Resolved.name, hsettled.declared]
    have hdeclared : ¬ d.name ∉ declared.map (·.name) := not_not.2 (List.mem_map_of_mem hd)
    rw [hname, declarationOf_of_mem hdistinct hd, eq_false hdeclared]
    exact hsettled
  · obtain ⟨name, hmem, -, hsettled⟩ := exists_mem_of_forall₂ hsecond hp
    have hname : p.name = name := by rw [Resolved.name, hsettled.declared, Declared.bare]
    have hnot := ((mem_undeclaredNames_iff htallies declared name).1 hmem).1
    rw [hname, declarationOf_of_not_mem hnot, eq_true hnot]
    exact hsettled

end

/-! ## Inference -/

/-- Inference is three steps, of which each has to succeed: uses, template, records (`usagesOf`, `
templateOf`, ` allOverrides`). -/
theorem inferPlaceholders_eq_ok_iff {κ : Type} {key : String} {declared : List Declared}
    {localeDeclared : List (κ × List Declared)} {messages : List Message} {inferred : Inferred κ} :
    inferPlaceholders key declared localeDeclared messages = .ok inferred ↔
      ∃ usages, Inferred.usagesOf [] messages = .ok usages ∧
        Inferred.templateOf key declared usages = .ok inferred.template ∧
        Inferred.allOverrides key usages inferred.template localeDeclared =
          .ok inferred.overrides := by
  simp only [inferPlaceholders, bind_eq_ok_iff, map_eq_ok_iff]
  constructor
  · rintro ⟨usages, husages, template, htemplate, overrides, hoverrides, rfl⟩
    exact ⟨usages, husages, htemplate, hoverrides⟩
  · rintro ⟨usages, husages, htemplate, hoverrides⟩
    exact ⟨usages, husages, _, htemplate, _, hoverrides, rfl⟩

/-- Every name that occurs in a message (`UsedIn`) is the name of a placeholder. -/
theorem mem_template_of_occurs {κ : Type} {key : String} {declared : List Declared}
    {localeDeclared : List (κ × List Declared)} {messages : List Message} {inferred : Inferred κ}
    (h : inferPlaceholders key declared localeDeclared messages = .ok inferred) {name : String}
    {use : Use} (huse : UsedIn messages name use) : name ∈ inferred.template.map (·.name) := by
  obtain ⟨usages, husages, htemplate, -⟩ := inferPlaceholders_eq_ok_iff.1 h
  have htallies := tallies_usagesOf husages
  rw [names_templateOf htallies htemplate, List.mem_append, mem_undeclaredNames_iff htallies]
  by_cases hname : name ∈ declared.map (·.name)
  · exact .inl hname
  · exact .inr ⟨hname, use, huse⟩

/-- Inference without placeholders (`inferPlaceholders`) that locales declare succeeds if and only
if every name that is declared or occurs in a message is declared as the rules ask. The placeholders
are then the declared ones in their order and after them the others in alphabetical order, and each
is settled by its declaration and its uses. -/
theorem exists_inferPlaceholders_iff {κ : Type} (key : String) (declared : List Declared)
    (asts : List (κ × Option Message)) (hdistinct : (declared.map (·.name)).Nodup)
    (hnesting : ∀ m ∈ presentMessages asts, nestingOfNodes m ≤ 32) :
    ((∃ inferred : Inferred κ,
        inferPlaceholders key declared [] (presentMessages asts) = .ok inferred) ↔
      ∀ name, IsPlaceholder declared (presentMessages asts) name →
        Admissible (UsedIn (presentMessages asts) name) (declarationOf declared name)) ∧
    ∀ inferred : Inferred κ,
      inferPlaceholders key declared [] (presentMessages asts) = .ok inferred →
      inferred.overrides = [] ∧
      (∃ others, inferred.template.map (·.name) = declared.map (·.name) ++ others ∧
        others.Pairwise (· < ·) ∧ ∀ name, name ∈ others ↔
          name ∉ declared.map (·.name) ∧ ∃ use, UsedIn (presentMessages asts) name use) ∧
      (inferred.template.map (·.name)).Nodup ∧
      ∀ p ∈ inferred.template,
        Settled (UsedIn (presentMessages asts) p.name) (declarationOf declared p.name)
          (p.name ∉ declared.map (·.name)) p := by
  obtain ⟨usages, husages⟩ := exists_usagesOf hnesting []
  have htallies := tallies_usagesOf husages
  -- Locales declare nothing here, so inference is the template.
  have hok : ∀ inferred : Inferred κ,
      inferPlaceholders key declared [] (presentMessages asts) = .ok inferred ↔
        Inferred.templateOf key declared usages = .ok inferred.template ∧
          inferred.overrides = [] := by
    intro inferred
    rw [inferPlaceholders_eq_ok_iff]
    constructor
    · rintro ⟨usages', husages', htemplate, hoverrides⟩
      cases husages.symm.trans husages'
      exact ⟨htemplate, (Except.ok.inj hoverrides).symm⟩
    · rintro ⟨htemplate, hoverrides⟩
      exact ⟨usages, husages, htemplate, by rw [hoverrides]; rfl⟩
  constructor
  · refine Iff.trans ?_ ((exists_templateOf_iff htallies key).trans
      (forall_admissible_iff htallies hdistinct))
    constructor
    · rintro ⟨inferred, h⟩
      exact ⟨inferred.template, ((hok inferred).1 h).1⟩
    · rintro ⟨template, h⟩
      exact ⟨⟨template, []⟩, (hok _).2 ⟨h, rfl⟩⟩
  · intro inferred h
    obtain ⟨htemplate, hoverrides⟩ := (hok inferred).1 h
    have hnames := names_templateOf htallies htemplate
    have hordered := pairwise_undeclaredNames htallies declared
    have hmem := mem_undeclaredNames_iff htallies declared
    refine ⟨hoverrides, ⟨_, hnames, hordered, hmem⟩, ?_,
      fun p hp => settled_of_mem_templateOf htallies hdistinct htemplate hp⟩
    rw [hnames]
    refine hdistinct.append (hordered.imp fun hlt => ne_of_lt hlt) ?_
    intro name hname hother
    exact ((hmem name).1 hother).1 hname

/-- A count and a day that are declared with their formats. -/
def partyDeclared : List Declared :=
  [⟨"count", some .int, some "decimalPattern", none, [], none⟩,
   ⟨"day", some .dateTime, some "d+E", none, [], none⟩]

/-- A plural that writes out the day, a locale without a message, and a selection with a time. -/
def partyAsts : List (String × Option Message) :=
  [("en", some [.choice .plural "count"
     [.mk (.exact 0) [.text "none" ⟨0, 4⟩] ⟨0, 4⟩,
      .mk .other [.reference "day" ⟨5, 10⟩, .reference "count" ⟨10, 17⟩] ⟨5, 17⟩] ⟨0, 17⟩]),
   ("de", none),
   ("fr", some [.argument "when" .time none ⟨0, 12⟩,
     .choice .select "host" [.mk .other [.reference "count" ⟨20, 27⟩] ⟨15, 28⟩] ⟨12, 28⟩])]

/-- Declared and undeclared placeholders of two locales, in the order in which they come. -/
theorem exists_inferPlaceholders_party :
    (partyDeclared.map (·.name)).Nodup ∧
    (∀ m ∈ presentMessages partyAsts, nestingOfNodes m ≤ 32) ∧
    (∀ name, IsPlaceholder partyDeclared (presentMessages partyAsts) name →
      Admissible (UsedIn (presentMessages partyAsts) name) (declarationOf partyDeclared name)) ∧
    ∃ inferred : Inferred String,
      inferPlaceholders "party" partyDeclared [] (presentMessages partyAsts) = .ok inferred ∧
      inferred.template.map (·.name) = ["count", "day", "host", "when"] ∧
      ∀ p ∈ inferred.template,
        Settled (UsedIn (presentMessages partyAsts) p.name) (declarationOf partyDeclared p.name)
          (p.name ∉ partyDeclared.map (·.name)) p := by
  have hdistinct : (partyDeclared.map (·.name)).Nodup := by decide
  have hnesting : ∀ m ∈ presentMessages partyAsts, nestingOfNodes m ≤ 32 := by
    simp [presentMessages, partyAsts, nestingOfNode]
  obtain ⟨hexists, hspec⟩ := exists_inferPlaceholders_iff "party" _ _ hdistinct hnesting
  have hnames : (inferPlaceholders (κ := String) "party" partyDeclared []
      (presentMessages partyAsts)).map (fun inferred => inferred.template.map (·.name)) =
        .ok ["count", "day", "host", "when"] := by
    simp only [inferPlaceholders, Inferred.templateOf, undeclaredNames_eq_insertionSort]
    decide +kernel
  obtain ⟨inferred, h, hnames⟩ := map_eq_ok_iff.1 hnames
  exact ⟨hdistinct, hnesting, hexists.1 ⟨inferred, h⟩, inferred, h, hnames,
    (hspec inferred h).2.2.2⟩

end Parlance
