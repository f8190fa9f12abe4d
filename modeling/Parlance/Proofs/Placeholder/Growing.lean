import Parlance.Proofs.Placeholder.Failing
import Parlance.Proofs.Placeholder.Inference

/-!
# More messages never hide an error of inference

A message more can only add uses. A declaration that fits all uses fits fewer of them too
(`Admissible.of_more`), and a type that is settled stays, unless it was that of a placeholder of no
particular type (`HasType.of_fewer`). So what inference refuses for some messages it refuses for
more of them, placeholders that locales declare anew included, and the placeholders that it infers
grow in their roles and keep their types (`inferPlaceholders_grows`).
-/

namespace Parlance

open Parlance.Grammar

/-! ## More uses of one name -/

section

variable {uses more : Use → Prop} {d : Declared} (hmore : ∀ use, uses use → more use)

include hmore

/-- The type (`HasType`) of a declaration stays when there are more uses, unless it is no particular
one. -/
theorem HasType.of_fewer {t : PlaceholderType} (h : HasType uses d t) (ht : t ≠ .object) :
    HasType more d t := by
  cases h with
  | declared hd => exact .declared hd
  | counted hd hrole => exact .counted hd (hmore _ hrole)
  | chosen hd hrole => exact .chosen hd (hmore _ hrole)
  | dated hd hrole => exact .dated hd (hmore _ hrole)
  | free hd hnone => exact absurd rfl ht

/-- What is admissible (`Admissible`) for some uses is so for fewer. -/
theorem Admissible.of_more (h : Admissible more d) : Admissible uses d where
  oneRole r s hr hs := h.oneRole r s (hmore _ hr) (hmore _ hs)
  suits r t hr ht := h.suits r t (hmore _ hr) ht
  dateFormat htype hplain := h.dateFormat (htype.of_fewer hmore (by decide)) (hmore _ hplain)
  numberFormat t ht htype := by
    refine h.numberFormat t ht (htype.of_fewer hmore ?_)
    rintro rfl
    simp [numericTypes] at ht

end

/-- Whether a placeholder has the roles of another and more perhaps, and the same type unless that
was no particular one. -/
structure Resolved.Grows (p q : Resolved) : Prop where
  type : p.type ≠ .object → q.type = p.type
  plural : p.usedAsPlural = true → q.usedAsPlural = true
  select : p.usedAsSelect = true → q.usedAsSelect = true
  dateTime : p.usedAsDateTime = true → q.usedAsDateTime = true

section

variable {uses more : Use → Prop} {own d : Declared} {isNew isNew' : Prop} {p q : Resolved}

/-- A placeholder that is settled (`Settled`) by more uses of its name has grown. -/
theorem Settled.grows (hmore : ∀ use, uses use → more use) (hp : Settled uses d isNew p)
    (hq : Settled more d isNew' q) (h : Admissible more d) : p.Grows q where
  type hobject := hq.type.unique h.oneRole (hp.type.of_fewer hmore hobject)
  plural hplural := hq.plural.2 (hmore _ (hp.plural.1 hplural))
  select hselect := hq.select.2 (hmore _ (hp.select.1 hselect))
  dateTime hdateTime := hq.dateTime.2 (hmore _ (hp.dateTime.1 hdateTime))

/-- A placeholder of no particular type (`HasType`) has no role. -/
private theorem HasType.no_role (htype : HasType uses d .object) (h : Admissible uses d) (r : Role)
    : ¬ uses (.role r) := by
  intro hrole
  cases htype.suits h hrole

/-- A type that is no particular one is admissible (`Admissible`) for a name without a role. -/
private theorem admissible_object (hd : d.type = some .object) (hnone : ∀ r, ¬ uses (.role r)) :
    Admissible uses d where
  oneRole r _ hr _ := absurd hr (hnone r)
  suits r _ hr _ := absurd hr (hnone r)
  dateFormat htype := by cases (hasType_iff_of_some hd).1 htype
  numberFormat t ht htype := by
    cases (hasType_iff_of_some hd).1 htype
    simp [numericTypes] at ht

/-- What a locale declares anew under the type of the template is admissible (`Admissible`) for the
uses that the template was settled by, if it is so for more uses and the type that follows from
these. -/
theorem admissible_redeclared (hmore : ∀ use, uses use → more use)
    (hbase : Settled uses own isNew p) (hown : Admissible uses own) (hgrows : p.Grows q)
    (h : Admissible more { d with type := some (d.type.getD q.type) }) :
    Admissible uses { d with type := some (d.type.getD p.type) } := by
  cases hd : d.type with
  | some t =>
    rw [hd] at h
    exact h.of_more hmore
  | none =>
    rw [hd] at h
    -- A placeholder that was no particular type may become one with more uses; any other keeps its
    -- type.
    by_cases hobject : p.type = .object
    · rw [hobject]
      exact admissible_object rfl fun r => (hobject ▸ hbase.type).no_role hown r
    · rw [← hgrows.type hobject]
      exact h.of_more hmore

end

/-! ## More uses of all names -/

section

variable {usages usages' : Usages} {occurs occurs' : String → Use → Prop}
  (htallies : Tallies usages occurs) (htallies' : Tallies usages' occurs')
  (hmore : ∀ name use, occurs name use → occurs' name use) {key : String}
  {declared : List Declared}

include htallies htallies' hmore

/-- Names that are not declared (`undeclaredNames`) stay so. -/
private theorem undeclaredNames_subset :
    Inferred.undeclaredNames declared usages ⊆ Inferred.undeclaredNames declared usages' := by
  intro name hname
  obtain ⟨hnot, use, huse⟩ := (mem_undeclaredNames_iff htallies declared name).1 hname
  exact (mem_undeclaredNames_iff htallies' declared name).2 ⟨hnot, use, hmore name use huse⟩

/-- There is a template (`templateOf`) if there is one with more uses. -/
theorem exists_templateOf_of_more
    (h : ∃ template, Inferred.templateOf key declared usages' = .ok template) :
    ∃ template, Inferred.templateOf key declared usages = .ok template := by
  obtain ⟨hall, hothers⟩ := (exists_templateOf_iff htallies' key).1 h
  refine (exists_templateOf_iff htallies key).2 ⟨fun d hd => ?_, fun name hname => ?_⟩
  · exact (hall d hd).of_more (hmore d.name)
  · have hname' := undeclaredNames_subset htallies htallies' hmore hname
    exact (hothers name hname').of_more (hmore name)

variable {template template' : List Resolved}
  (h : Inferred.templateOf key declared usages = .ok template)
  (h' : Inferred.templateOf key declared usages' = .ok template')

include h h'

/-- Every name in the template stays in it. -/
theorem names_template_subset : template.map (·.name) ⊆ template'.map (·.name) := by
  rw [names_templateOf htallies h, names_templateOf htallies' h']
  exact List.append_subset.2 ⟨List.subset_append_left _ _, List.subset_append_of_subset_right _
    (undeclaredNames_subset htallies htallies' hmore)⟩

variable (hdistinct : (declared.map (·.name)).Nodup)

include hdistinct

/-- The placeholders of the template grow (`Grows`). -/
theorem grows_template {p q : Resolved} (hp : p ∈ template) (hq : q ∈ template')
    (hname : q.name = p.name) : p.Grows q := by
  have hsettled := settled_of_mem_templateOf htallies hdistinct h hp
  have hsettled' := settled_of_mem_templateOf htallies' hdistinct h' hq
  rw [hname] at hsettled'
  refine hsettled.grows (hmore p.name) hsettled' ?_
  have hadmissible := (forall_admissible_iff htallies' hdistinct).1
    ((exists_templateOf_iff htallies' key).1 ⟨template', h'⟩)
  have hmem : p.name ∈ template'.map (·.name) := hname ▸ List.mem_map_of_mem hq
  rw [names_templateOf htallies' h', List.mem_append, mem_undeclaredNames_iff htallies'] at hmem
  exact hadmissible p.name (hmem.imp_right And.right)

/-- What a locale declares anew is let through (`overrideOf`) if it is so with more uses. -/
theorem exists_overrideOf_of_more {p q : Resolved} (hp : p ∈ template) (hq : q ∈ template')
    (hname : q.name = p.name) {d : Declared} (hd : p.name = d.name)
    (hoverride : ∃ r, Inferred.overrideOf key usages' q d = .ok r) :
    ∃ r, Inferred.overrideOf key usages p d = .ok r := by
  obtain ⟨own, isNew, hbase, hsettled⟩ := exists_admissible_of_mem_templateOf htallies h hp
  have hgrows := grows_template htallies htallies' hmore h h' hdistinct hp hq hname
  obtain ⟨r, hr⟩ := hoverride
  obtain ⟨checked, hchecked, -⟩ := map_eq_ok_iff.1 hr
  have hadmissible :=
    (exists_ofRoles_iff (htallies'.has_iff d.name) key q.synthesized).1 ⟨checked, hchecked⟩
  rw [hd] at hsettled hbase
  exact exists_map_eq_ok ((exists_ofRoles_iff (htallies.has_iff d.name) key p.synthesized).2
    (admissible_redeclared (hmore d.name) hsettled hbase hgrows hadmissible))

/-- The records of a locale (`overridesOf`) are let through if they are so with more uses. -/
theorem exists_overridesOf_of_more {placeholders : List Declared}
    (hoverrides : ∃ rs, Inferred.overridesOf key usages' template' placeholders = .ok rs) :
    ∃ rs, Inferred.overridesOf key usages template placeholders = .ok rs := by
  induction placeholders with
  | nil => exact ⟨[], rfl⟩
  | cons d rest ih =>
    obtain ⟨rs, hrs⟩ := hoverrides
    rw [Inferred.overridesOf] at hrs ⊢
    have hnames := names_template_subset htallies htallies' hmore h h'
    cases hfind : template.find? (·.name == d.name) with
    | none =>
      refine ih ?_
      -- with more uses the name may be in the template, and then its record is let through too
      split at hrs
      · exact ⟨rs, hrs⟩
      · obtain ⟨r, -, hmore'⟩ := bind_eq_ok_iff.1 hrs
        obtain ⟨others, hothers, -⟩ := map_eq_ok_iff.1 hmore'
        exact ⟨others, hothers⟩
    | some p =>
      have hp := List.mem_of_find?_eq_some hfind
      have hpname : p.name = d.name := by simpa using List.find?_some hfind
      cases hfind' : template'.find? (·.name == d.name) with
      | none =>
        obtain ⟨q, hq, hqname⟩ := List.mem_map.1 (hnames (List.mem_map_of_mem hp))
        have hno := List.find?_eq_none.1 hfind' q hq
        simp [hqname, hpname] at hno
      | some q =>
        rw [hfind'] at hrs
        have hq := List.mem_of_find?_eq_some hfind'
        have hqname : q.name = d.name := by simpa using List.find?_some hfind'
        obtain ⟨r, hr, hmore'⟩ := bind_eq_ok_iff.1 hrs
        obtain ⟨others, hothers, -⟩ := map_eq_ok_iff.1 hmore'
        obtain ⟨r', hr'⟩ := exists_overrideOf_of_more htallies htallies' hmore h h' hdistinct hp hq
          (hqname.trans hpname.symm) hpname ⟨r, hr⟩
        obtain ⟨others', hothers'⟩ := ih ⟨others, hothers⟩
        exact ⟨r' :: others', bind_eq_ok_iff.2 ⟨r', hr', map_eq_ok_iff.2 ⟨others', hothers', rfl⟩⟩⟩

/-- The records of all locales (`allOverrides`) are let through if they are so with more uses. -/
theorem exists_allOverrides_of_more {κ : Type} {localeDeclared : List (κ × List Declared)}
    (hall : ∃ all, Inferred.allOverrides key usages' template' localeDeclared = .ok all) :
    ∃ all, Inferred.allOverrides key usages template localeDeclared = .ok all := by
  induction localeDeclared with
  | nil => exact ⟨[], rfl⟩
  | cons entry rest ih =>
    obtain ⟨all, hall⟩ := hall
    obtain ⟨locale, placeholders⟩ := entry
    rw [Inferred.allOverrides] at hall ⊢
    obtain ⟨rs, hrs, hmore'⟩ := bind_eq_ok_iff.1 hall
    obtain ⟨others, hothers, -⟩ := map_eq_ok_iff.1 hmore'
    -- the overrides of one locale, and then those of the others
    obtain ⟨rs', hrs'⟩ :=
      exists_overridesOf_of_more htallies htallies' hmore h h' hdistinct ⟨rs, hrs⟩
    rw [hrs']
    exact exists_map_eq_ok (ih ⟨others, hothers⟩)

end

/-! ## More messages -/

section

variable {key : String} {declared : List Declared} {messages more : List Message}
  (hsub : messages ⊆ more)

include hsub

/-- What occurs in some messages (`UsedIn`) occurs in more of them. -/
theorem UsedIn.of_subset {name : String} {use : Use} (h : UsedIn messages name use) :
    UsedIn more name use := by
  obtain ⟨m, hm, hoccurs⟩ := h
  exact ⟨m, hsub hm, hoccurs⟩

/-- Inference succeeds if it does with more messages that can be walked through. -/
theorem exists_inferPlaceholders_of_more {κ : Type} {localeDeclared : List (κ × List Declared)}
    (hnesting : ∀ m ∈ more, nestingOfNodes m ≤ 32) (hdistinct : (declared.map (·.name)).Nodup)
    (h : ∃ inferred, inferPlaceholders key declared localeDeclared more = .ok inferred) :
    ∃ inferred, inferPlaceholders key declared localeDeclared messages = .ok inferred := by
  obtain ⟨inferred, hinferred⟩ := h
  obtain ⟨usages', husages', htemplate', hoverrides'⟩ := inferPlaceholders_eq_ok_iff.1 hinferred
  obtain ⟨usages, husages⟩ := exists_usagesOf (fun m hm => hnesting m (hsub hm)) []
  have htallies := tallies_usagesOf husages
  have htallies' := tallies_usagesOf husages'
  have hmore : ∀ name use, UsedIn messages name use → UsedIn more name use :=
    fun name use => UsedIn.of_subset hsub
  -- Success goes down step by step: first the template, then what the locales declare.
  obtain ⟨template, htemplate⟩ :=
    exists_templateOf_of_more htallies htallies' hmore ⟨_, htemplate'⟩
  obtain ⟨all, hall⟩ := exists_allOverrides_of_more htallies htallies' hmore htemplate htemplate'
    hdistinct ⟨_, hoverrides'⟩
  exact ⟨⟨template, all⟩, inferPlaceholders_eq_ok_iff.2 ⟨usages, husages, htemplate, hall⟩⟩

end

/-- More messages never hide an error. If a placeholder breaks a rule in some messages then one does
in more of them; and where none does, every name stays, with its type unless that was no particular
one, and with all its roles. -/
theorem inferPlaceholders_grows {κ : Type} {asts more : List (κ × Option Message)}
    (hsub : asts ⊆ more) (hnesting : ∀ m ∈ presentMessages more, nestingOfNodes m ≤ 32)
    (key : String) {declared : List Declared} (hdistinct : (declared.map (·.name)).Nodup)
    (localeDeclared : List (κ × List Declared)) :
    ((∃ f, inferPlaceholders key declared localeDeclared (presentMessages asts) = .error f ∧
        Breach key f) →
      ∃ f, inferPlaceholders key declared localeDeclared (presentMessages more) = .error f ∧
        Breach key f) ∧
    ∀ inferred inferred',
      inferPlaceholders key declared localeDeclared (presentMessages asts) = .ok inferred →
      inferPlaceholders key declared localeDeclared (presentMessages more) = .ok inferred' →
      ∀ p ∈ inferred.template, p.name ∈ inferred'.template.map (·.name) ∧
        ∀ q ∈ inferred'.template, q.name = p.name → p.Grows q := by
  have hmessages : presentMessages asts ⊆ presentMessages more := List.filterMap_subset _ hsub
  constructor
  · rintro ⟨f, hf, -⟩
    cases hresult : inferPlaceholders key declared localeDeclared (presentMessages more) with
    | ok inferred =>
      obtain ⟨_, hok⟩ := exists_inferPlaceholders_of_more hmessages hnesting hdistinct ⟨_, hresult⟩
      cases hf.symm.trans hok
    | error f' =>
      -- the messages can be walked through, so it is a placeholder that is at fault
      obtain ⟨usages, husages⟩ := exists_usagesOf hnesting []
      have hfails : FailsAs (Breach key) (Inferred.usagesOf [] (presentMessages more)) := by
        rw [husages]
        exact failsAs_ok _
      exact ⟨f', rfl, failsAs_inferPlaceholders (fun _ => id) hfails declared localeDeclared f'
        hresult⟩
  · intro inferred inferred' h h' p hp
    obtain ⟨usages, husages, htemplate, -⟩ := inferPlaceholders_eq_ok_iff.1 h
    obtain ⟨usages', husages', htemplate', -⟩ := inferPlaceholders_eq_ok_iff.1 h'
    have htallies := tallies_usagesOf husages
    have htallies' := tallies_usagesOf husages'
    have hmore : ∀ name use, UsedIn (presentMessages asts) name use →
        UsedIn (presentMessages more) name use := fun name use => UsedIn.of_subset hmessages
    exact ⟨names_template_subset htallies htallies' hmore htemplate htemplate'
        (List.mem_map_of_mem hp),
      fun q hq => grows_template htallies htallies' hmore htemplate htemplate' hdistinct hp hq⟩

/-- A message that writes the number of seats out. -/
def seatsWritten : Message := [.reference "seats" ⟨0, 7⟩]

/-- A message that counts the seats, and one that selects by them. -/
def seatsCounted : Message :=
  [.choice .plural "seats" [.mk .other [.reference "row" ⟨21, 26⟩] ⟨15, 27⟩] ⟨0, 28⟩]

def seatsSelected : Message := [.choice .select "seats" [.mk .other [] ⟨15, 22⟩] ⟨0, 23⟩]

/-- The number of seats is of no particular type where it is written out, and a number as soon as a
locale counts it; that a locale selects by it stays an error, whatever the others do. -/
theorem inferPlaceholders_grows_seats :
    (∃ inferred inferred' : Inferred String,
      inferPlaceholders "show" [] [] (presentMessages [("en", some seatsWritten)]) = .ok inferred ∧
      inferPlaceholders "show" [] []
        (presentMessages [("en", some seatsWritten), ("de", some seatsCounted)]) = .ok inferred' ∧
      inferred.template.map (fun p => (p.name, p.type)) = [("seats", .object)] ∧
      inferred'.template.map (fun p => (p.name, p.type)) = [("row", .object), ("seats", .num)] ∧
      ∀ p ∈ inferred.template, p.name ∈ inferred'.template.map (·.name) ∧
        ∀ q ∈ inferred'.template, q.name = p.name → p.Grows q) ∧
    ∃ f, inferPlaceholders "show" [] ([] : List (String × List Declared))
        (presentMessages [("de", some seatsCounted), ("fr", some seatsSelected),
          ("en", some seatsWritten)]) = .error f ∧ Breach "show" f := by
  constructor
  · have hfirst : (inferPlaceholders (κ := String) "show" [] []
        (presentMessages [("en", some seatsWritten)])).map
          (fun inferred => inferred.template.map fun p => (p.name, p.type)) =
        .ok [("seats", .object)] := by decide +kernel
    have hsecond : (inferPlaceholders (κ := String) "show" [] []
        (presentMessages [("en", some seatsWritten), ("de", some seatsCounted)])).map
          (fun inferred => inferred.template.map fun p => (p.name, p.type)) =
        .ok [("row", .object), ("seats", .num)] := by
      -- evaluation does not get through `mergeSort`, which sorts the names without declaration
      simp only [inferPlaceholders, Inferred.templateOf, undeclaredNames_eq_insertionSort]
      decide +kernel
    obtain ⟨inferred, h, htypes⟩ := map_eq_ok_iff.1 hfirst
    obtain ⟨inferred', h', htypes'⟩ := map_eq_ok_iff.1 hsecond
    have hnesting : ∀ m ∈ presentMessages
        [("en", some seatsWritten), ("de", some seatsCounted)], nestingOfNodes m ≤ 32 := by
      simp [presentMessages, seatsWritten, seatsCounted, nestingOfNode]
    exact ⟨inferred, inferred', h, h', htypes, htypes',
      (inferPlaceholders_grows (by simp) hnesting "show" (by decide) []).2 inferred inferred' h h'⟩
  · have hnesting : ∀ m ∈ presentMessages [("de", some seatsCounted), ("fr", some seatsSelected),
        ("en", some seatsWritten)], nestingOfNodes m ≤ 32 := by
      simp [presentMessages, seatsWritten, seatsCounted, seatsSelected, nestingOfNode]
    -- the clash is there without the third locale
    have hclash : inferPlaceholders "show" [] ([] : List (String × List Declared))
        (presentMessages [("de", some seatsCounted), ("fr", some seatsSelected)]) =
        .error (.conflictingUsage "show" "seats" ["plural", "select"]) := by
      simp only [inferPlaceholders, Inferred.templateOf, undeclaredNames_eq_insertionSort]
      decide +kernel
    exact (inferPlaceholders_grows (by simp) hnesting "show" (by decide) []).1
      ⟨_, hclash, .conflictingUsage (by decide)⟩

end Parlance
