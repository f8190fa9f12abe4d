import Mathlib.Data.String.Basic
import Parlance.Placeholder.Inference
import Parlance.Proofs.Results

/-!
# How inference fails

Beyond a message that is too deep to be walked through, inference fails only where a placeholder
breaks a rule (`Breach`): its roles exclude each other, its declared type does not suit its role, or
its format is not known. Whatever the uses were collected from, roles that exclude each other are
told in alphabetical order.
-/

namespace Parlance

/-- The failures of a placeholder of a message that breaks a rule. -/
inductive Breach (key : String) : Fault → Prop
  | conflictingUsage {name : String} {roles : List String} (hordered : roles.Pairwise (· < ·)) :
      Breach key (.conflictingUsage key name roles)
  | invalidType {name declared role : String} {allowed : List String} :
      Breach key (.invalidType key name declared role allowed)
  | invalidDateFormat {name format : String} : Breach key (.invalidDateFormat key name format)
  | invalidNumberFormat {name format : String} : Breach key (.invalidNumberFormat key name format)

/-- The words of the roles that exclude each other (`Roles.exclusive`) are in alphabetical order. -/
private theorem pairwise_exclusive (roles : Roles) :
    (roles.exclusive.map (·.name)).Pairwise (· < ·) := by
  rw [Roles.exclusive]
  cases roles.dateTime <;> cases roles.plural <;> cases roles.select <;> decide

section

variable {key : String}

/-- No type (`typeFor`) is found only for a breach of the rules. -/
private theorem failsAs_typeFor (d : Declared) (roles : Roles) :
    FailsAs (Breach key) (Resolved.typeFor key d roles) := by
  rw [Resolved.typeFor]
  split
  · exact failsAs_ok _
  · split
    · exact failsAs_ok _
    · split
      · exact failsAs_ok _
      · exact failsAs_error .invalidType
  · exact failsAs_error (.conflictingUsage (pairwise_exclusive roles))

/-- A format is refused only for a breach of the rules (`Breach`). -/
private theorem failsAs_checkFormat (p : Resolved) : FailsAs (Breach key)
    (Resolved.checkFormat key p) := by
  rw [Resolved.checkFormat]
  -- a date is held against the skeletons, and any other type against the number formats
  split
  · split
    · split
      · exact failsAs_error .invalidDateFormat
      · exact failsAs_ok _
    · exact failsAs_ok _
  · split
    · exact failsAs_error .invalidNumberFormat
    · exact failsAs_ok _

/-- A placeholder (`Resolved.ofRoles`) is refused only for a breach of the rules. -/
private theorem failsAs_ofRoles (d : Declared) (roles : Roles) (isNew : Bool) :
    FailsAs (Breach key) (Resolved.ofRoles key d roles isNew) := by
  rw [Resolved.ofRoles]
  split
  · next e htype => exact failsAs_error (failsAs_typeFor d roles e htype)
  · exact failsAs_checkFormat _

/-- There is no template (`templateOf`) only for a breach of the rules. -/
theorem failsAs_templateOf (declared : List Declared) (usages : Usages) :
    FailsAs (Breach key) (Inferred.templateOf key declared usages) := by
  rw [Inferred.templateOf]
  refine FailsAs.bind (failsAs_mapM fun d _ => failsAs_ofRoles d _ false) fun first => ?_
  exact (failsAs_mapM fun name _ => failsAs_ofRoles (.bare name) _ true).map

/-- The records of a locale (`overridesOf`) are refused only for a breach of the rules. -/
private theorem failsAs_overridesOf (usages : Usages) (template : List Resolved)
    (declared : List Declared) :
    FailsAs (Breach key) (Inferred.overridesOf key usages template declared) := by
  induction declared with
  | nil => exact failsAs_ok []
  | cons d rest ih =>
    rw [Inferred.overridesOf]
    split
    · exact ih
    · exact (failsAs_ofRoles _ _ _).map.bind fun r => ih.map

/-- The records of all locales (`allOverrides`) are refused only for a breach of the rules. -/
theorem failsAs_allOverrides {κ : Type} (usages : Usages) (template : List Resolved)
    (localeDeclared : List (κ × List Declared)) :
    FailsAs (Breach key) (Inferred.allOverrides key usages template localeDeclared) := by
  induction localeDeclared with
  | nil => exact failsAs_ok []
  | cons entry rest ih =>
    rw [Inferred.allOverrides]
    exact (failsAs_overridesOf usages template entry.2).bind fun rs => ih.map

/-- Inference fails as a placeholder that breaks a rule, or as the collecting of uses (`usagesOf`)
does. -/
theorem failsAs_inferPlaceholders {κ : Type} {kind : Fault → Prop} {messages : List Message}
    (hbreach : ∀ f, Breach key f → kind f) (husages : FailsAs kind (Inferred.usagesOf [] messages))
    (declared : List Declared) (localeDeclared : List (κ × List Declared)) :
    FailsAs kind (inferPlaceholders key declared localeDeclared messages) := by
  refine husages.bind fun usages e he => hbreach e ?_
  refine FailsAs.bind (failsAs_templateOf declared usages) (fun template => ?_) e he
  exact (failsAs_allOverrides usages template localeDeclared).map

end

end Parlance
