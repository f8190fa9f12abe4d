import Mathlib.Data.List.Sort
import Parlance.Proofs.Placeholder.Failing
import Parlance.Proofs.Placeholder.Inference

/-!
# Inference does not depend on the order of locales

The messages of all locales are read for the uses in them, and the uses are kept in the order in
which they are met. No placeholder shows that order: those that are declared stand in the order of
declaration, all others in that of their names, and each has the roles that its name has anywhere.
So inference from the messages and declarations of the same locales in another order succeeds too,
with the same placeholders, and the records of the locales come in another order only
(`exists_inferPlaceholders_of_perm`). Where only the messages come in another order, also a failure
is the same (`inferPlaceholders_eq_of_perm`).
-/

namespace Parlance

/-! ## The same uses -/

namespace Roles

/-- Roles are told by the uses that they tell (`Roles.has`). -/
private theorem ext_has {a b : Roles} (h : ∀ use, a.has use = true ↔ b.has use = true) : a = b := by
  have hplain := h .plain
  have hplural := h (.role .plural)
  have hselect := h (.role .select)
  have hdateTime := h (.role .dateTime)
  simp only [has, ← Bool.eq_iff_iff] at hplain hplural hselect hdateTime
  cases a
  cases b
  simp_all

end Roles

/-- Whether two lists of usages give the same roles and leave the same names undeclared. -/
structure SameUses (usages usages' : Usages) : Prop where
  roles : ∀ name, usages.rolesOf name = usages'.rolesOf name
  undeclared : ∀ declared,
    Inferred.undeclaredNames declared usages = Inferred.undeclaredNames declared usages'

/-- What occurs decides about the uses that are told (`SameUses`), in whatever order they were met.
-/
theorem Tallies.sameUses {usages usages' : Usages} {occurs : String → Use → Prop}
    (h : Tallies usages occurs) (h' : Tallies usages' occurs) : SameUses usages usages' where
  roles name := Roles.ext_has fun use => (h.has_iff name use).trans (h'.has_iff name use).symm
  undeclared declared := by
    -- both are in order without repetition, and hold the same names
    have hordered := pairwise_undeclaredNames h declared
    have hordered' := pairwise_undeclaredNames h' declared
    have hmem : ∀ name, name ∈ Inferred.undeclaredNames declared usages ↔
        name ∈ Inferred.undeclaredNames declared usages' := fun name =>
      (mem_undeclaredNames_iff h declared name).trans
        (mem_undeclaredNames_iff h' declared name).symm
    have hperm := (List.perm_ext_iff_of_nodup (hordered.imp fun hlt => ne_of_lt hlt)
      (hordered'.imp fun hlt => ne_of_lt hlt)).2 hmem
    exact hperm.eq_of_pairwise (fun _ _ _ _ hlt hlt' => absurd hlt' (lt_asymm hlt)) hordered
      hordered'

section

variable {usages usages' : Usages} (h : SameUses usages usages')

include h

/-- The template (`templateOf`) goes by the uses of names, not by their order. -/
theorem SameUses.templateOf (key : String) (declared : List Declared) :
    Inferred.templateOf key declared usages = Inferred.templateOf key declared usages' := by
  unfold Inferred.templateOf
  simp only [h.roles, h.undeclared]

/-- The records of a locale (`overridesOf`) go by the uses of names, not by their order. -/
theorem SameUses.overridesOf (key : String) (template : List Resolved)
    (declared : List Declared) :
    Inferred.overridesOf key usages template declared =
      Inferred.overridesOf key usages' template declared := by
  induction declared with
  | nil => rfl
  | cons d rest ih =>
    rw [Inferred.overridesOf, Inferred.overridesOf, ih]
    unfold Inferred.overrideOf
    simp only [h.roles]

/-- The records of all locales (`allOverrides`) go by the uses of names, not by their order. -/
theorem SameUses.allOverrides {κ : Type} (key : String) (template : List Resolved)
    (localeDeclared : List (κ × List Declared)) :
    Inferred.allOverrides key usages template localeDeclared =
      Inferred.allOverrides key usages' template localeDeclared := by
  induction localeDeclared with
  | nil => rfl
  | cons entry rest ih => rw [Inferred.allOverrides, Inferred.allOverrides, h.overridesOf, ih]

end

/-! ## Another order -/

/-- The uses in messages (`usagesOf`) are collected if and only if every message is walked through
to its end. -/
private theorem exists_usagesOf_iff {messages : List Message} {usages : Usages} :
    (∃ all, Inferred.usagesOf usages messages = .ok all) ↔
      ∀ m ∈ messages, (Usages.collect [] m).2 = true := by
  induction messages generalizing usages with
  | nil => simp [Inferred.usagesOf]
  | cons m rest ih =>
    rw [Inferred.usagesOf, List.forall_mem_cons]
    -- whether a walk comes to its end does not depend on what was recorded before
    have hcomplete : (usages.collect m).2 = (Usages.collect [] m).2 := rfl
    dsimp only
    rw [hcomplete]
    cases (Usages.collect [] m).2 with
    | true => simpa using ih
    | false => simp

/-- Messages in another order have the same uses (`SameUses`). -/
theorem exists_usagesOf_of_perm {messages messages' : List Message} (h : messages.Perm messages')
    {usages : Usages} (husages : Inferred.usagesOf [] messages = .ok usages) :
    ∃ usages', Inferred.usagesOf [] messages' = .ok usages' ∧ SameUses usages usages' := by
  have hcomplete := exists_usagesOf_iff.1 ⟨usages, husages⟩
  obtain ⟨usages', husages'⟩ := exists_usagesOf_iff.2 fun m hm => hcomplete m (h.mem_iff.2 hm)
  refine ⟨usages', husages', (tallies_usagesOf husages).sameUses ?_⟩
  refine (tallies_usagesOf husages').congr fun name use => ?_
  exact exists_congr fun m => and_congr_left' h.mem_iff

/-- The records of locales come in the order in which the locales declare. -/
theorem exists_allOverrides_of_perm {κ : Type} {key : String} {usages : Usages}
    {template : List Resolved} {localeDeclared localeDeclared' : List (κ × List Declared)}
    (h : localeDeclared.Perm localeDeclared') {all : List (κ × List Resolved)}
    (hall : Inferred.allOverrides key usages template localeDeclared = .ok all) :
    ∃ all', Inferred.allOverrides key usages template localeDeclared' = .ok all' ∧
      all.Perm all' := by
  induction h generalizing all with
  | nil => exact ⟨all, hall, .refl _⟩
  | cons entry _ ih =>
    rw [Inferred.allOverrides] at hall
    obtain ⟨records, hrecords, hmore⟩ := bind_eq_ok_iff.1 hall
    obtain ⟨others, hothers, rfl⟩ := map_eq_ok_iff.1 hmore
    obtain ⟨others', hothers', hperm⟩ := ih hothers
    rw [Inferred.allOverrides, hrecords, hothers']
    refine ⟨_, rfl, ?_⟩
    split
    · exact hperm
    · exact hperm.cons _
  | swap first second rest =>
    -- both locales are resolved by themselves, and either may be left out
    rw [Inferred.allOverrides, Inferred.allOverrides] at hall
    obtain ⟨records, hrecords, hmore⟩ := bind_eq_ok_iff.1 hall
    obtain ⟨others, hothers, rfl⟩ := map_eq_ok_iff.1 hmore
    obtain ⟨records', hrecords', hmore'⟩ := bind_eq_ok_iff.1 hothers
    obtain ⟨others', hothers', rfl⟩ := map_eq_ok_iff.1 hmore'
    rw [Inferred.allOverrides, Inferred.allOverrides, hrecords, hrecords', hothers']
    refine ⟨_, rfl, ?_⟩
    dsimp only
    split <;> split
    · exact .refl _
    · exact .refl _
    · exact .refl _
    · exact .swap _ _ _
  | trans _ _ ih ih' =>
    obtain ⟨middle, hmiddle, hperm⟩ := ih hall
    obtain ⟨last, hlast, hperm'⟩ := ih' hmiddle
    exact ⟨last, hlast, hperm.trans hperm'⟩

/-- The placeholders that are inferred (`inferPlaceholders`) from several locales are the same in
whatever order the locales come. -/
theorem exists_inferPlaceholders_of_perm {κ : Type} {key : String} {declared : List Declared}
    {localeDeclared localeDeclared' : List (κ × List Declared)} {messages messages' : List Message}
    (hdeclared : localeDeclared.Perm localeDeclared') (hmessages : messages.Perm messages')
    {inferred : Inferred κ}
    (h : inferPlaceholders key declared localeDeclared messages = .ok inferred) :
    ∃ inferred', inferPlaceholders key declared localeDeclared' messages' = .ok inferred' ∧
      inferred'.template = inferred.template ∧ inferred.overrides.Perm inferred'.overrides := by
  obtain ⟨usages, husages, htemplate, hoverrides⟩ := inferPlaceholders_eq_ok_iff.1 h
  obtain ⟨usages', husages', hsame⟩ := exists_usagesOf_of_perm hmessages husages
  obtain ⟨overrides', hoverrides', hperm⟩ := exists_allOverrides_of_perm hdeclared hoverrides
  rw [hsame.templateOf] at htemplate
  rw [hsame.allOverrides] at hoverrides'
  exact ⟨⟨inferred.template, overrides'⟩,
    inferPlaceholders_eq_ok_iff.2 ⟨usages', husages', htemplate, hoverrides'⟩, rfl, hperm⟩

/-- Locales have records (`allOverrides`) only if they declare placeholders, and in the same order.
-/
theorem sublist_allOverrides {κ : Type} {key : String} {usages : Usages}
    {template : List Resolved} {localeDeclared : List (κ × List Declared)}
    {all : List (κ × List Resolved)}
    (h : Inferred.allOverrides key usages template localeDeclared = .ok all) :
    (all.map (·.1)).Sublist (localeDeclared.map (·.1)) := by
  induction localeDeclared generalizing all with
  | nil =>
    cases h
    exact .slnil
  | cons entry rest ih =>
    rw [Inferred.allOverrides] at h
    obtain ⟨records, -, hmore⟩ := bind_eq_ok_iff.1 h
    obtain ⟨others, hothers, rfl⟩ := map_eq_ok_iff.1 hmore
    split
    · exact (ih hothers).cons _
    · exact (ih hothers).cons_cons _

/-! ## The same result -/

/-- Uses are only refused for the depth of a message, whichever message that is. -/
private theorem failsAs_usagesOf (messages : List Message) (usages : Usages) :
    FailsAs (· = .depthExceeded Walk.defaultDepth) (Inferred.usagesOf usages messages) := by
  induction messages generalizing usages with
  | nil => exact failsAs_ok usages
  | cons m rest ih =>
    rw [Inferred.usagesOf]
    dsimp only
    split
    · exact ih _
    · exact failsAs_error rfl

/-- Messages in another order are refused as they were, or have the same uses (`Alike`). -/
theorem alike_usagesOf_of_perm {messages messages' : List Message} (h : messages.Perm messages') :
    Alike SameUses (Inferred.usagesOf [] messages) (Inferred.usagesOf [] messages') := by
  cases husages : Inferred.usagesOf [] messages with
  | ok usages =>
    obtain ⟨usages', husages', hsame⟩ := exists_usagesOf_of_perm h husages
    exact husages' ▸ .ok hsame
  | error e =>
    cases husages' : Inferred.usagesOf [] messages' with
    | ok usages' =>
      -- Were the uses collected in the other order, they would be in this one.
      obtain ⟨usages, hok, -⟩ := exists_usagesOf_of_perm h.symm husages'
      cases husages.symm.trans hok
    | error e' =>
      rw [failsAs_usagesOf _ _ e husages, failsAs_usagesOf _ _ e' husages']
      exact .error _

/-- Inference from messages in another order succeeds or fails alike (`Alike`). -/
theorem alike_inferPlaceholders_of_perm {κ : Type} {messages messages' : List Message}
    (h : messages.Perm messages') (key : String) (declared : List Declared)
    (localeDeclared : List (κ × List Declared)) :
    Alike Eq (inferPlaceholders key declared localeDeclared messages)
      (inferPlaceholders key declared localeDeclared messages') := by
  refine (alike_usagesOf_of_perm h).bind fun usages usages' hsame => ?_
  rw [hsame.templateOf]
  refine (Alike.refl _).bind fun template _ heq => ?_
  rw [← heq, hsame.allOverrides]
  exact .refl _

/-- Locales without a message have none to infer from. -/
private theorem presentMessages_filter {κ : Type} (asts : List (κ × Option Message)) :
    presentMessages (asts.filter (·.2.isSome)) = presentMessages asts := by
  rw [presentMessages, presentMessages, List.filterMap_filter]
  refine List.filterMap_congr fun entry _ => ?_
  cases entry.2 <;> rfl

/-- Inference depends on the messages of the locales only, in whatever order the locales come and
whichever others have no message: placeholders and records are the same in the same order, and a
failure is the same failure. It is that of a placeholder that breaks a rule, which tells roles in
alphabetical order, or of a message that is too deep. -/
theorem inferPlaceholders_eq_of_perm {κ : Type} {asts asts' : List (κ × Option Message)}
    (h : (asts.filter (·.2.isSome)).Perm (asts'.filter (·.2.isSome))) (key : String)
    (declared : List Declared) (localeDeclared : List (κ × List Declared)) :
    inferPlaceholders key declared localeDeclared (presentMessages asts) =
        inferPlaceholders key declared localeDeclared (presentMessages asts') ∧
      ∀ f, inferPlaceholders key declared localeDeclared (presentMessages asts) = .error f →
        Breach key f ∨ f = .depthExceeded Walk.defaultDepth := by
  have hmessages : (presentMessages asts).Perm (presentMessages asts') := by
    rw [← presentMessages_filter asts, ← presentMessages_filter asts']
    exact h.filterMap _
  refine ⟨(alike_inferPlaceholders_of_perm hmessages key declared localeDeclared).eq, ?_⟩
  refine failsAs_inferPlaceholders (fun f => .inl) (fun f hf => .inr ?_) declared localeDeclared
  exact failsAs_usagesOf _ _ f hf

/-- A message that counts by a name, and one that selects by it. -/
def countedGuests : Message :=
  [.choice .plural "guest" [.mk .other [.reference "guest" ⟨21, 28⟩] ⟨15, 29⟩] ⟨0, 30⟩]

def selectedGuests : Message := [.choice .select "guest" [.mk .other [] ⟨15, 22⟩] ⟨0, 23⟩]

def clashingAsts : List (String × Option Message) :=
  [("en", some countedGuests), ("de", none), ("fr", some selectedGuests)]

/-- The same in another order, and another locale without a message. -/
def clashingAsts' : List (String × Option Message) :=
  [("fr", some selectedGuests), ("it", none), ("en", some countedGuests)]

/-- Two locales that clash, in both orders and beside one without a message. -/
theorem inferPlaceholders_eq_of_perm_clash :
    (clashingAsts.filter (·.2.isSome)).Perm (clashingAsts'.filter (·.2.isSome)) ∧
    inferPlaceholders "seat" [] ([] : List (String × List Declared))
        (presentMessages clashingAsts) =
      inferPlaceholders "seat" [] ([] : List (String × List Declared))
        (presentMessages clashingAsts') ∧
    inferPlaceholders "seat" [] ([] : List (String × List Declared))
        (presentMessages clashingAsts) =
      .error (.conflictingUsage "seat" "guest" ["plural", "select"]) := by
  have hperm : (clashingAsts.filter (·.2.isSome)).Perm (clashingAsts'.filter (·.2.isSome)) :=
    .swap _ _ []
  exact ⟨hperm, (inferPlaceholders_eq_of_perm hperm "seat" [] []).1, by decide +kernel⟩

end Parlance
