import Parlance.Proofs.Message.Occurrence

/-!
# The rules of placeholders

What a declaration says about a placeholder must fit the uses of its name. `Admissible` is the list
of rules and `HasType` gives the type that follows. A single placeholder is resolved if and only if
its declaration is admissible (`exists_ofRoles_iff`), and the record that comes out says just what
the declaration and the uses say (`ofRoles_eq_ok_iff`).
-/

namespace Parlance

open Parlance.Text

/-- The types that suit a role. -/
inductive Suits : Role → PlaceholderType → Prop
  | num : Suits .plural .num
  | int : Suits .plural .int
  | string : Suits .select .string
  | dateTime : Suits .dateTime .dateTime

/-- The type of a declared placeholder whose name is used in some ways: what is declared comes
first, and then the type that goes with the role. -/
inductive HasType (uses : Use → Prop) (d : Declared) : PlaceholderType → Prop
  | declared {t : PlaceholderType} (h : d.type = some t) : HasType uses d t
  | counted (h : d.type = none) (hrole : uses (.role .plural)) : HasType uses d .num
  | chosen (h : d.type = none) (hrole : uses (.role .select)) : HasType uses d .string
  | dated (h : d.type = none) (hrole : uses (.role .dateTime)) : HasType uses d .dateTime
  | free (h : d.type = none) (hnone : ∀ r, ¬ uses (.role r)) : HasType uses d .object

/-- The types of numbers. -/
def numericTypes : List PlaceholderType := [.int, .num, .double]

/-- Whether every part of a date format is a known skeleton. -/
def IsDateFormat (format : String) : Prop := ∀ part ∈ cutAt '+' format, part ∈ dateSkeletons

/-- Whether a declaration fits the uses of its name. -/
structure Admissible (uses : Use → Prop) (d : Declared) : Prop where
  oneRole : ∀ r s, uses (.role r) → uses (.role s) → r = s
  suits : ∀ r t, uses (.role r) → d.type = some t → Suits r t
  dateFormat : HasType uses d .dateTime → uses .plain → d.customDateFormat ≠ some true →
    ∀ format, d.format = some format → IsDateFormat format
  numberFormat : ∀ t ∈ numericTypes, HasType uses d t →
    ∀ format, d.format = some format → isNumberFormat format = true

/-- Whether a resolved placeholder says what a declaration and the uses of its name say. -/
structure Settled (uses : Use → Prop) (d : Declared) (isNew : Prop) (p : Resolved) : Prop where
  declared : p.declared = d
  type : HasType uses d p.type
  plural : p.usedAsPlural = true ↔ uses (.role .plural)
  select : p.usedAsSelect = true ↔ uses (.role .select)
  dateTime : p.usedAsDateTime = true ↔ uses (.role .dateTime)
  dateFormatting : p.requiresDateFormatting = true ↔ p.type = .dateTime ∧ uses .plain
  synthesized : p.synthesized = true ↔ isNew

/-- The placeholder of a declaration that has a type and some roles. -/
def recordOf (d : Declared) (t : PlaceholderType) (roles : Roles) (isNew : Bool) : Resolved :=
  ⟨d, t, roles.plural, roles.select, roles.dateTime, t == .dateTime && roles.plain, isNew⟩

/-! ## The role of a name -/

namespace Roles

/-- The exclusive (`exclusive`) roles are those that are told. -/
private theorem mem_exclusive_iff (roles : Roles) (r : Role) :
    r ∈ roles.exclusive ↔ roles.has (.role r) = true := by
  cases r <;> simp [exclusive, has]

/-- No exclusive role (`Roles.exclusive`) is told twice. -/
private theorem nodup_exclusive (roles : Roles) : roles.exclusive.Nodup := by
  rw [exclusive]
  cases roles.dateTime <;> cases roles.plural <;> cases roles.select <;> decide

end Roles

/-- The types that a role allows (`allowed`) are those that suit it. -/
private theorem mem_allowed_iff (r : Role) (t : PlaceholderType) : t ∈ r.allowed ↔ Suits r t := by
  constructor
  · intro h
    cases r <;> simp only [Role.allowed, List.mem_cons, List.not_mem_nil, or_false] at h
    · rcases h with rfl | rfl
      · exact .num
      · exact .int
    · exact h ▸ .string
    · exact h ▸ .dateTime
  · rintro (_ | _ | _ | _) <;> decide

/-- `isNumeric` asks for one of `numericTypes`. -/
theorem isNumeric_iff (t : PlaceholderType) :
    t.isNumeric = true ↔ t ∈ numericTypes := by
  cases t <;> decide

/-! ## The type that follows -/

section

variable {uses : Use → Prop} {d : Declared} {t : PlaceholderType}

/-- A declared type (`HasType`) is the type. -/
theorem hasType_iff_of_some {s : PlaceholderType} (h : d.type = some s) :
    HasType uses d t ↔ t = s := by
  constructor
  · rintro (hdeclared | ⟨hnone, -⟩ | ⟨hnone, -⟩ | ⟨hnone, -⟩ | ⟨hnone, -⟩)
    · exact Option.some.inj (hdeclared.symm.trans h)
    all_goals exact absurd (hnone.symm.trans h) (by simp)
  · rintro rfl
    exact .declared h

/-- Without a declared type, the type follows from a role, or is `object` if there is none. -/
private theorem hasType_iff_of_none (h : d.type = none) :
    HasType uses d t ↔
      (∃ r, uses (.role r) ∧ t = r.defaultType) ∨ (∀ r, ¬ uses (.role r)) ∧ t = .object := by
  constructor
  · rintro (hdeclared | ⟨-, hrole⟩ | ⟨-, hrole⟩ | ⟨-, hrole⟩ | ⟨-, hnone⟩)
    · exact absurd (h.symm.trans hdeclared) (by simp)
    · exact .inl ⟨.plural, hrole, rfl⟩
    · exact .inl ⟨.select, hrole, rfl⟩
    · exact .inl ⟨.dateTime, hrole, rfl⟩
    · exact .inr ⟨hnone, rfl⟩
  · rintro (⟨r, hrole, rfl⟩ | ⟨hnone, rfl⟩)
    · -- each role has a rule of its own
      cases r
      · exact .counted h hrole
      · exact .chosen h hrole
      · exact .dated h hrole
    · exact .free h hnone

/-- Every declaration has a type (`HasType`). -/
private theorem exists_hasType (uses : Use → Prop) (d : Declared) : ∃ t, HasType uses d t := by
  cases h : d.type with
  | some s => exact ⟨s, .declared h⟩
  | none =>
    by_cases hrole : ∃ r, uses (.role r)
    · obtain ⟨r, hr⟩ := hrole
      exact ⟨r.defaultType, (hasType_iff_of_none h).2 (.inl ⟨r, hr, rfl⟩)⟩
    · exact ⟨.object, .free h (not_exists.1 hrole)⟩

/-- The type (`HasType`) of a declaration whose name has one role at most is determined. -/
theorem HasType.unique (hone : ∀ r s, uses (.role r) → uses (.role s) → r = s)
    (h : HasType uses d t) {other : PlaceholderType} (hother : HasType uses d other) :
    t = other := by
  cases hd : d.type with
  | some s =>
    rw [hasType_iff_of_some hd] at h hother
    rw [h, hother]
  | none =>
    rw [hasType_iff_of_none hd] at h hother
    -- Without a declared type, one role or none decides, and there is one at most.
    rcases h with ⟨r, hr, rfl⟩ | ⟨hnone, rfl⟩ <;>
      rcases hother with ⟨s, hs, rfl⟩ | ⟨hnone', rfl⟩
    · rw [hone r s hr hs]
    · exact absurd hr (hnone' r)
    · exact absurd hs (hnone s)
    · rfl

/-- The type (`HasType`) of an admissible declaration suits every role of its name. -/
theorem HasType.suits (htype : HasType uses d t) (h : Admissible uses d) {r : Role}
    (hr : uses (.role r)) : Suits r t := by
  cases htype with
  | declared hd => exact h.suits r t hr hd
  | counted _ hrole => exact h.oneRole _ _ hrole hr ▸ .num
  | chosen _ hrole => exact h.oneRole _ _ hrole hr ▸ .string
  | dated _ hrole => exact h.oneRole _ _ hrole hr ▸ .dateTime
  | free _ hnone => exact absurd hr (hnone r)

end

/-! ## Resolving a placeholder -/

/-- `hasValidDateFormat` asks for a known format. -/
private theorem hasValidDateFormat_iff {p : Resolved} {format : String} (h : p.format = some format)
    : p.hasValidDateFormat = true ↔ IsDateFormat format := by
  simp [Resolved.hasValidDateFormat, Resolved.dateFormatParts, h, IsDateFormat]

/-- `hasValidNumberFormat` asks for a known format. -/
private theorem hasValidNumberFormat_eq {p : Resolved} {format : String}
    (h : p.format = some format) : p.hasValidNumberFormat = isNumberFormat format := by
  rw [Resolved.hasValidNumberFormat, h]

/-- A format is let through (`checkFormat`) if it is none that is looked at, or is known. -/
theorem checkFormat_eq_ok_iff (key : String) (p q : Resolved) :
    Resolved.checkFormat key p = .ok q ↔ p = q ∧
      (p.requiresDateFormatting = true → p.isCustomDateFormat = false →
        ∀ format, p.format = some format → IsDateFormat format) ∧
      (p.requiresDateFormatting = false → p.type.isNumeric = true →
        ∀ format, p.format = some format → isNumberFormat format = true) := by
  rw [Resolved.checkFormat, Resolved.requiresNumberFormatting]
  cases hformat : p.format with
  -- A date format is looked at first, a number format only if there is no need of a date.
  | none => cases p.requiresDateFormatting <;> simp
  | some format =>
    have hdate := hasValidDateFormat_iff hformat
    have hnumber := hasValidNumberFormat_eq hformat
    cases p.requiresDateFormatting with
    | true =>
      cases p.isCustomDateFormat with
      | true => simp
      | false => cases hvalid : p.hasValidDateFormat <;> simp [← hdate, hvalid]
    | false =>
      cases p.type.isNumeric with
      | false => simp
      | true => cases hvalid : isNumberFormat format <;> simp [hnumber, hvalid]

section

variable {uses : Use → Prop} {d : Declared} {roles : Roles}
  (hroles : ∀ use, roles.has use = true ↔ uses use)

include hroles

/-- A type (`typeFor`) is found if the name has one role at most and a declared type suits it. -/
theorem typeFor_eq_ok_iff (key : String) (t : PlaceholderType) :
    Resolved.typeFor key d roles = .ok t ↔
      (∀ r s, uses (.role r) → uses (.role s) → r = s) ∧
        (∀ r s, uses (.role r) → d.type = some s → Suits r s) ∧ HasType uses d t := by
  have hmem : ∀ r, uses (.role r) ↔ r ∈ roles.exclusive :=
    fun r => ((roles.mem_exclusive_iff r).trans (hroles _)).symm
  have hnodup := roles.nodup_exclusive
  rw [Resolved.typeFor]
  match hexclusive : roles.exclusive with
  | [] =>
    have hnone : ∀ r, ¬ uses (.role r) := by simp [hmem, hexclusive]
    cases hd : d.type with
    | none => simp [hasType_iff_of_none hd, hnone, eq_comm]
    | some s => simp [hasType_iff_of_some hd, hnone, eq_comm]
  | [r] =>
    have hone : ∀ s, uses (.role s) ↔ s = r := by simp [hmem, hexclusive]
    cases hd : d.type with
    | none => simp [hasType_iff_of_none hd, hone, eq_comm]
    | some s =>
      by_cases hsuits : Suits r s
      · simp [hasType_iff_of_some hd, hone, mem_allowed_iff, hsuits, eq_comm]
      · simp [hone, mem_allowed_iff, hsuits]
  | r :: s :: rest =>
    -- two roles of one name are different, so the rule of one role fails
    rw [hexclusive] at hnodup
    have hne : r ≠ s := by
      rintro rfl
      simp at hnodup
    have hr : uses (.role r) := by simp [hmem, hexclusive]
    have hs : uses (.role s) := by simp [hmem, hexclusive]
    simp only [reduceCtorEq, false_iff]
    exact fun h => hne (h.1 r s hr hs)

/-- A placeholder is settled (`Settled`) if its type is one of the declaration, and every other
field is read off the declaration and the roles. -/
theorem settled_iff (isNew : Bool) (p : Resolved) :
    Settled uses d (isNew = true) p ↔ ∃ t, HasType uses d t ∧ p = recordOf d t roles isNew := by
  have hplain := hroles .plain
  have hplural := hroles (.role .plural)
  have hselect := hroles (.role .select)
  have hdateTime := hroles (.role .dateTime)
  simp only [Roles.has] at hplain hplural hselect hdateTime
  constructor
  · rintro ⟨rfl, htype, h1, h2, h3, h4, h5⟩
    refine ⟨p.type, htype, ?_⟩
    -- The fields of the record are flags, each of which tells one of the roles.
    obtain ⟨d, t, plural, select, dateTime, formatting, synthesized⟩ := p
    simp only [recordOf, Resolved.mk.injEq, true_and]
    refine ⟨?_, ?_, ?_, ?_, ?_⟩ <;> rw [Bool.eq_iff_iff] <;> simp_all
  · rintro ⟨t, htype, rfl⟩
    exact ⟨rfl, htype, hplural, hselect, hdateTime, by simp [recordOf, hplain], Iff.rfl⟩

/-- A placeholder is resolved if its declaration is admissible (`Admissible`), and then it is
settled. -/
theorem ofRoles_eq_ok_iff (key : String) (isNew : Bool) (p : Resolved) :
    Resolved.ofRoles key d roles isNew = .ok p ↔
      Admissible uses d ∧ Settled uses d (isNew = true) p := by
  have htype := typeFor_eq_ok_iff (d := d) hroles key
  have hplain := hroles .plain
  have hcustom : d.customDateFormat.getD false = false ↔ d.customDateFormat ≠ some true := by
    rcases d.customDateFormat with _ | _ | _ <;> simp
  rw [settled_iff hroles, Resolved.ofRoles]
  constructor
  · intro h
    split at h
    · cases h
    · next t ht =>
      obtain ⟨hone, hsuits, hhas⟩ := (htype t).1 ht
      obtain ⟨rfl, hdate, hnumber⟩ := (checkFormat_eq_ok_iff ..).1 h
      refine ⟨⟨hone, hsuits, fun hdateTime huse hno => ?_, fun s hs hhas' => ?_⟩, t, hhas, rfl⟩
      · cases hhas.unique hone hdateTime
        exact hdate (by simpa [Roles.has] using hplain.2 huse) (hcustom.2 hno)
      · cases hhas.unique hone hhas'
        refine hnumber ?_ ((isNumeric_iff t).2 hs)
        -- a number is no date, whatever its uses
        rw [Bool.and_eq_false_iff]
        left
        revert hs
        cases t <;> decide
  · rintro ⟨⟨hone, hsuits, hdate, hnumber⟩, t, hhas, rfl⟩
    rw [(htype t).2 ⟨hone, hsuits, hhas⟩]
    refine (checkFormat_eq_ok_iff ..).2 ⟨rfl, fun hformatting hno => ?_, fun _ hnumeric => ?_⟩
    · obtain ⟨rfl, huse⟩ : t = .dateTime ∧ roles.plain = true := by simpa using hformatting
      exact hdate hhas (hplain.1 huse) (hcustom.1 hno)
    · exact hnumber t ((isNumeric_iff t).1 hnumeric) hhas

/-- A placeholder is resolved (`Resolved.ofRoles`) if and only if its declaration is admissible. -/
theorem exists_ofRoles_iff (key : String) (isNew : Bool) :
    (∃ p, Resolved.ofRoles key d roles isNew = .ok p) ↔ Admissible uses d := by
  simp only [ofRoles_eq_ok_iff hroles, settled_iff hroles]
  constructor
  · rintro ⟨p, h, -⟩
    exact h
  · intro h
    obtain ⟨t, ht⟩ := exists_hasType uses d
    exact ⟨_, h, t, ht, rfl⟩

end

end Parlance
