import Parlance.Proofs.Placeholder.Inference

/-!
# Placeholders that locales declare anew

A locale may declare a placeholder of the template anew. The record keeps the type and the roles of
the template's, but it is checked under the type that the locale declares. So it follows the rules
of placeholders just when the two types are of one kind (`followsRules_override_iff`), and a locale
that declares a date in the place of an object has it formatted as a date
(`not_followsRules_dateOfObject`).
-/

namespace Parlance

/-- Whether a resolved placeholder is formatted as its type and its uses ask, and with a format
that is known. -/
structure FollowsRules (uses : Use → Prop) (r : Resolved) : Prop where
  dateFormatting : r.requiresDateFormatting = true ↔ r.type = .dateTime ∧ uses .plain
  dateFormat : r.requiresDateFormatting = true → r.isCustomDateFormat = false →
    ∀ format, r.format = some format → IsDateFormat format
  numberFormat : r.requiresNumberFormatting = true →
    ∃ format, r.format = some format ∧ isNumberFormat format = true

/-- Whether a record is that of a placeholder of the template which a locale declares anew. -/
structure IsOverride (base : Resolved) (d : Declared) (r : Resolved) : Prop where
  declared : r.declared = { d with type := some (d.type.getD base.type) }
  type : r.type = base.type
  plural : r.usedAsPlural = base.usedAsPlural
  select : r.usedAsSelect = base.usedAsSelect
  dateTime : r.usedAsDateTime = base.usedAsDateTime
  synthesized : r.synthesized = base.synthesized

/-- Whether the type that a locale declares and the type of the template are of one kind: both or
neither are dates, if the value is written out, and for a number with a format that is not known
both are numbers. -/
def SameKind (uses : Use → Prop) (base : Resolved) (d : Declared) : Prop :=
  (uses .plain → (d.type.getD base.type = .dateTime ↔ base.type = .dateTime)) ∧
    (base.type ∈ numericTypes → d.type.getD base.type ∈ numericTypes ∨
      ∀ format, d.format = some format → isNumberFormat format = true)

/-! ## Where the records come from -/

section

variable {key : String} {usages : Usages} {template : List Resolved}

/-- A record of a locale (`overrideOf`) is that of a declaration whose name is in the template. -/
theorem exists_of_mem_overridesOf {declared : List Declared} {records : List Resolved}
    (h : Inferred.overridesOf key usages template declared = .ok records) {r : Resolved}
    (hr : r ∈ records) :
    ∃ d ∈ declared, ∃ base, template.find? (·.name == d.name) = some base ∧
      Inferred.overrideOf key usages base d = .ok r := by
  induction declared generalizing records with
  | nil =>
    cases h
    cases hr
  | cons d rest ih =>
    rw [Inferred.overridesOf] at h
    -- A name that the template lacks is passed over.
    cases hfind : template.find? (·.name == d.name) with
    | none =>
      rw [hfind] at h
      obtain ⟨d', hd', hbase⟩ := ih h hr
      exact ⟨d', List.mem_cons_of_mem _ hd', hbase⟩
    | some base =>
      rw [hfind] at h
      obtain ⟨first, hfirst, hmore⟩ := bind_eq_ok_iff.1 h
      obtain ⟨others, hothers, rfl⟩ := map_eq_ok_iff.1 hmore
      rcases List.mem_cons.1 hr with rfl | hr
      · exact ⟨d, List.mem_cons_self, base, hfind, hfirst⟩
      · obtain ⟨d', hd', hbase⟩ := ih hothers hr
        exact ⟨d', List.mem_cons_of_mem _ hd', hbase⟩

/-- The records under a locale (`allOverrides`) are those of what it declares. -/
theorem exists_of_mem_allOverrides {κ : Type} {localeDeclared : List (κ × List Declared)}
    {all : List (κ × List Resolved)}
    (h : Inferred.allOverrides key usages template localeDeclared = .ok all) {locale : κ}
    {records : List Resolved} (hlocale : (locale, records) ∈ all) :
    ∃ declared, (locale, declared) ∈ localeDeclared ∧
      Inferred.overridesOf key usages template declared = .ok records := by
  induction localeDeclared generalizing all with
  | nil =>
    cases h
    cases hlocale
  | cons entry rest ih =>
    obtain ⟨locale', declared⟩ := entry
    rw [Inferred.allOverrides] at h
    obtain ⟨first, hfirst, hmore⟩ := bind_eq_ok_iff.1 h
    obtain ⟨others, hothers, rfl⟩ := map_eq_ok_iff.1 hmore
    have hrest : (locale, records) ∈ others → ∃ declared', (locale, declared') ∈
        (locale', declared) :: rest ∧
        Inferred.overridesOf key usages template declared' = .ok records := by
      intro hmem
      obtain ⟨declared', hmem', hrecords⟩ := ih hothers hmem
      exact ⟨declared', List.mem_cons_of_mem _ hmem', hrecords⟩
    -- a locale whose declarations all miss the template is left out
    split at hlocale
    · exact hrest hlocale
    · rcases List.mem_cons.1 hlocale with heq | hmem
      · cases heq
        exact ⟨declared, List.mem_cons_self, hfirst⟩
      · exact hrest hmem

end

/-! ## What the records say -/

section

variable {key : String} {usages : Usages} {occurs : String → Use → Prop}
  (htallies : Tallies usages occurs)

include htallies

/-- A record is settled under the type (`Settled`) that the locale declares and then given the type
of the template. -/
theorem exists_settled_of_overrideOf {base r : Resolved} {d : Declared}
    (h : Inferred.overrideOf key usages base d = .ok r) :
    ∃ checked : Resolved,
      Admissible (occurs d.name) { d with type := some (d.type.getD base.type) } ∧
      Settled (occurs d.name) { d with type := some (d.type.getD base.type) }
        (base.synthesized = true) checked ∧
      r = { checked with type := base.type } := by
  obtain ⟨checked, hchecked, rfl⟩ := map_eq_ok_iff.1 h
  obtain ⟨hadmissible, hsettled⟩ := (ofRoles_eq_ok_iff (htallies.has_iff d.name) ..).1 hchecked
  exact ⟨checked, hadmissible, hsettled, rfl⟩

/-- A record has the type and the roles of the placeholder (`IsOverride`) in the template. -/
private theorem isOverride_of_overrideOf {base r : Resolved} {d own : Declared} {isNew : Prop}
    (hbase : Settled (occurs d.name) own isNew base)
    (h : Inferred.overrideOf key usages base d = .ok r) : IsOverride base d r := by
  obtain ⟨checked, -, hsettled, rfl⟩ := exists_settled_of_overrideOf htallies h
  refine ⟨hsettled.declared, rfl, ?_, ?_, ?_, ?_⟩ <;> rw [Bool.eq_iff_iff]
  · exact hsettled.plural.trans hbase.plural.symm
  · exact hsettled.select.trans hbase.select.symm
  · exact hsettled.dateTime.trans hbase.dateTime.symm
  · exact hsettled.synthesized

/-- A record follows the rules (`FollowsRules`) if and only if the type it was checked under is of
the same kind as the type it was given. -/
theorem followsRules_iff_sameKind {base r : Resolved} {d : Declared}
    (h : Inferred.overrideOf key usages base d = .ok r) :
    FollowsRules (occurs d.name) r ↔ SameKind (occurs d.name) base d := by
  obtain ⟨checked, hadmissible, hsettled, rfl⟩ := exists_settled_of_overrideOf htallies h
  have hformat : checked.format = d.format := by rw [Resolved.format, hsettled.declared]
  have hgiven : Resolved.format { checked with type := base.type } = d.format := hformat
  have hcustom : checked.isCustomDateFormat = false ↔ d.customDateFormat ≠ some true := by
    rw [Resolved.isCustomDateFormat, hsettled.declared]
    rcases d.customDateFormat with _ | _ | _ <;> simp
  have htype : checked.type = d.type.getD base.type := (hasType_iff_of_some rfl).1 hsettled.type
  have hdate := hsettled.dateFormatting
  rw [htype] at hdate
  constructor
  · rintro ⟨hformatting, -, hnumber⟩
    refine ⟨fun huse => ?_, fun hbase => ?_⟩
    · simpa [huse] using hdate.symm.trans hformatting
    · refine .inr fun format hd => ?_
      have hrequires :
          Resolved.requiresNumberFormatting { checked with type := base.type } = true :=
        Bool.and_eq_true_iff.2 ⟨(isNumeric_iff _).2 hbase, by rw [hgiven, hd]; rfl⟩
      obtain ⟨format', hformat', hknown⟩ := hnumber hrequires
      cases (hformat'.symm.trans hgiven).trans hd
      exact hknown
  · rintro ⟨hkind, hnumber⟩
    refine ⟨?_, fun hrequires hno format hd => ?_, fun hrequires => ?_⟩
    · exact hdate.trans (and_congr_left hkind)
    · -- the format of a date is looked at whatever the type of the template
      obtain ⟨hown, huse⟩ := hdate.1 hrequires
      exact hadmissible.dateFormat (.declared (congrArg some hown)) huse (hcustom.1 hno) format
        (hformat.symm.trans hd)
    · obtain ⟨hnumeric, hsome⟩ := Bool.and_eq_true_iff.1 hrequires
      obtain ⟨format, hd⟩ := Option.isSome_iff_exists.1 hsome
      refine ⟨format, hd, ?_⟩
      rcases hnumber ((isNumeric_iff _).1 hnumeric) with hown | hknown
      · exact hadmissible.numberFormat _ hown (.declared rfl) format (hformat.symm.trans hd)
      · exact hknown format (hformat.symm.trans hd)

end

/-! ## Inference -/

/-- The record of a placeholder that a locale declares anew has the type and the roles of the
template's, and it follows the rules (`FollowsRules`) if and only if the two declarations are of one
kind. -/
theorem followsRules_override_iff {κ : Type} {key : String} {declared : List Declared}
    {localeDeclared : List (κ × List Declared)} {messages : List Message} {inferred : Inferred κ}
    (h : inferPlaceholders key declared localeDeclared messages = .ok inferred) {locale : κ}
    {records : List Resolved} (hlocale : (locale, records) ∈ inferred.overrides) {r : Resolved}
    (hr : r ∈ records) :
    ∃ base d placeholders, inferred.template.find? (·.name == r.name) = some base ∧
      (locale, placeholders) ∈ localeDeclared ∧ d ∈ placeholders ∧ IsOverride base d r ∧
      (FollowsRules (UsedIn messages r.name) r ↔ SameKind (UsedIn messages r.name) base d) := by
  obtain ⟨usages, husages, htemplate, hoverrides⟩ := inferPlaceholders_eq_ok_iff.1 h
  have htallies := tallies_usagesOf husages
  obtain ⟨placeholders, hplaceholders, hrecords⟩ := exists_of_mem_allOverrides hoverrides hlocale
  obtain ⟨d, hd, base, hfind, hoverride⟩ := exists_of_mem_overridesOf hrecords hr
  have hbase : base.name = d.name := by simpa using List.find?_some hfind
  obtain ⟨own, isNew, hsettled⟩ :=
    exists_settled_of_mem_templateOf htallies htemplate (List.mem_of_find?_eq_some hfind)
  -- The record is built from the base in the template, and both are settled by the same uses.
  have hrecord := isOverride_of_overrideOf htallies (hbase ▸ hsettled) hoverride
  have hname : r.name = d.name := by rw [Resolved.name, hrecord.declared]
  rw [hname]
  exact ⟨base, d, placeholders, hfind, hplaceholders, hd, hrecord,
    followsRules_iff_sameKind htallies hoverride⟩

/-- A day that is written out with a format of its own. -/
def dayDeclared : Declared := ⟨"day", some .dateTime, some "d+E", none, [], none⟩

/-- A format for the same day, the type left to the template. -/
def dayRedeclared : Declared := ⟨"day", none, some "d", none, [], none⟩

/-- A message that is the day alone, and one that says a word before it. -/
def dayMessages : List Message :=
  [[.reference "day" ⟨0, 5⟩], [.text "am " ⟨0, 3⟩, .reference "day" ⟨3, 8⟩]]

/-- A date that is declared anew with another format follows the rules (`FollowsRules`). -/
theorem followsRules_dayRedeclared :
    ∃ inferred : Inferred String,
      inferPlaceholders "due" [dayDeclared] [("de", [dayRedeclared])] dayMessages = .ok inferred ∧
      ∃ records r, ("de", records) ∈ inferred.overrides ∧ r ∈ records ∧
        FollowsRules (UsedIn dayMessages r.name) r := by
  have h : inferPlaceholders (κ := String) "due" [dayDeclared] [("de", [dayRedeclared])]
      dayMessages =
        .ok ⟨[⟨dayDeclared, .dateTime, false, false, false, true, false⟩],
          [("de", [⟨{ dayRedeclared with type := some .dateTime }, .dateTime, false, false, false,
            true, false⟩])]⟩ := by
    decide +kernel
  obtain ⟨base, d, placeholders, hfind, hplaceholders, hd, -, hiff⟩ :=
    followsRules_override_iff h List.mem_cons_self List.mem_cons_self
  refine ⟨_, h, _, _, List.mem_cons_self, List.mem_cons_self, hiff.2 ?_⟩
  -- there is one placeholder, and one override of it
  cases hfind
  cases List.mem_singleton.1 hplaceholders
  cases List.mem_singleton.1 hd
  exact ⟨fun _ => Iff.rfl, fun hnumeric => by simp [numericTypes] at hnumeric⟩

/-- A locale that declares a date in the place of an object has the object formatted as a date. -/
theorem not_followsRules_dateOfObject :
    ∃ inferred : Inferred String,
      inferPlaceholders "due" [.bare "day"]
        [("de", [{ dayRedeclared with type := some .dateTime }])] dayMessages = .ok inferred ∧
      ∃ records r, ("de", records) ∈ inferred.overrides ∧ r ∈ records ∧
        r.type = .object ∧ r.requiresDateFormatting = true ∧
        ¬ FollowsRules (UsedIn dayMessages r.name) r := by
  have h : inferPlaceholders (κ := String) "due" [.bare "day"]
      [("de", [{ dayRedeclared with type := some .dateTime }])] dayMessages =
        .ok ⟨[⟨.bare "day", .object, false, false, false, false, false⟩],
          [("de", [⟨{ dayRedeclared with type := some .dateTime }, .object, false, false, false,
            true, false⟩])]⟩ := by
    decide +kernel
  refine ⟨_, h, _, _, List.mem_cons_self, List.mem_cons_self, rfl, rfl, fun hrules => ?_⟩
  -- formatting is required as of a date, but the type is that of the template
  have htype := (hrules.dateFormatting.1 rfl).1
  cases htype

end Parlance
