import Parlance.Proofs.Code.Classes
import Parlance.Proofs.Text.Casing

/-!
# Parameters and the local variables for them

Every parameter of an accessor may have a local variable for its formatted value. Making a plan
looks at both families of names together (`withFormatted_of_parametersOf`). So the parameters of a
plan and all local variables that there may be for them are distinct variables, and none is a name
that bodies use for something else, as they are spelled (`parametersFit_of_make`). What they are in
the class whose body they stand in may be the same all the same; it is not if the parameters are of
ASCII and begin with no underscore (`ParametersFit.inClass`).
-/

namespace Parlance.Code

open Parlance.Text

/-! ## Names that are no identifiers -/

/-- A name with a blank in it has no identifier (`isIdentifier`). -/
private theorem not_isIdentifier_snakeCase {name : String} (h : ' ' ∈ name.toList) :
    ¬ isIdentifier (snakeCase name) = true := by
  intro hidentifier
  have hblank : ' ' ∈ (snakeCase name).toList := by
    rw [snakeCase, String.toList_ofList, snakeChars, lowerChars]
    exact mem_lowerFrom_of_fixed (by decide) ((sublist_splitWords none _).subset h)
  have hpart := isIdentifierPart_of_mem hidentifier ' ' hblank
  cases hpart

/-- What a parameter's local variable is checked under. -/
private theorem formattedLabel_eq (name : String) :
    s!"{name} (formatted)" = name ++ " (formatted)" := rfl

/-! ## Local variables -/

/-- Different parameters have different local variables (`formattedName`). -/
theorem formattedName_injective : Function.Injective formattedName := by
  intro a b h
  rw [formattedName, formattedName, ← String.toList_inj, String.toList_append,
    String.toList_append] at h
  exact String.toList_inj.1 (List.append_cancel_right h)

/-- The local variable of a parameter (`formattedName`) is longer than any name that bodies use. -/
private theorem formattedName_ne {x parameter : String} (h : x.length < 10) :
    x ≠ formattedName parameter := by
  rintro rfl
  have hlength : "_formatted".length = 10 := by decide
  rw [formattedName, String.length_append] at h
  omega

/-- The local variable of a parameter of ASCII (`IsAscii`) is of ASCII. -/
private theorem isAscii_formattedName {parameter : String} (h : IsAscii parameter) :
    IsAscii (formattedName parameter) := by
  have hsuffix : IsAscii "_formatted" := by decide
  rw [IsAscii, formattedName, String.toList_append]
  exact List.forall_mem_append.2 ⟨h, hsuffix⟩

/-- In a class, too (`nameInClass`), the local variable of a parameter is longer than any name that
bodies use. -/
theorem nameInClass_formattedName_ne {x : String} (h : x.length < 10)
    (className parameter : String) : nameInClass className (formattedName parameter) ≠ x := by
  rintro rfl
  have hnormal : nfkc (formattedName parameter) = formattedName (nfkc parameter) :=
    nfkc_append_of_ascii parameter (by decide)
  -- the ending alone is longer than `x`, whether a prefix comes before or not
  have hlength : "_formatted".length = 10 := by decide
  rw [nameInClass, hnormal, formattedName] at h
  split at h
  · rw [String.length_append, String.length_append] at h
    omega
  · rw [String.length_append] at h
    omega

/-- The names that all bodies use (`reservedParameters`) are the same in every class. -/
theorem nameInClass_of_reserved {x : String} (h : x ∈ reservedParameters) (className : String) :
    nameInClass className x = x := by
  have hplain : ∀ x ∈ reservedParameters, IsAscii x ∧ ¬ IsPrivate x := by decide
  exact nameInClass_of_ascii (hplain x h).1 (hplain x h).2 className

/-- Whether parameters, together with all local variables that there may be for them, are variables
and distinct identifiers, and none of them is one that bodies use for something else. -/
structure ParametersFit (identifier : String → String) (parameters : Assoc String) : Prop where
  distinct : ((parameters.values ++ parameters.values.map formattedName).map identifier).Nodup
  isVariable : ∀ x ∈ parameters.values ++ parameters.values.map formattedName, IsVariable x
  free : ∀ x ∈ parameters.values ++ parameters.values.map formattedName,
    identifier x ∉ reservedParameters

/-- Parameters of ASCII (`IsAscii`) that begin with no underscore fit in every class if they do as
they are spelled. -/
theorem ParametersFit.inClass {parameters : Assoc String} (h : ParametersFit id parameters)
    (hnames : ∀ x ∈ parameters.values, IsAscii x ∧ x.toList.head? ≠ some '_')
    (className : String) : ParametersFit (nameInClass className) parameters := by
  -- what begins with no underscore is not private, whatever comes behind it
  have hpublic : ∀ x ∈ parameters.values, ∀ more, ¬ IsPrivate (x ++ more) := by
    rintro x hx more ⟨hstart, -⟩
    obtain ⟨c, rest, hchars⟩ := List.exists_cons_of_ne_nil
      (mt String.toList_eq_nil_iff.1 (ne_empty_of_isIdentifier
        (h.isVariable x (List.mem_append_left _ hx)).1))
    have hhead := (hnames x hx).2
    rw [String.toList_append, hchars, List.cons_append, List.cons_prefix_cons] at hstart
    rw [hchars, List.head?_cons] at hhead
    exact hhead (congrArg some hstart.1.symm)
  have hsame : ∀ x ∈ parameters.values ++ parameters.values.map formattedName,
      nameInClass className x = id x := by
    refine List.forall_mem_append.2 ⟨fun x hx => ?_, List.forall_mem_map.2 fun x hx => ?_⟩
    · have hown := hpublic x hx ""
      rw [String.append_empty] at hown
      exact nameInClass_of_ascii (hnames x hx).1 hown className
    · exact nameInClass_of_ascii (isAscii_formattedName (hnames x hx).1) (hpublic x hx _) className
  exact ⟨List.map_congr_left hsame ▸ h.distinct, h.isVariable, fun x hx =>
    hsame x hx ▸ h.free x hx⟩

/-! ## The parameters of placeholders -/

section

variable {ps : List Resolved} {parameters : Assoc String}

/-- Each placeholder has the identifier of its name for a parameter (`parametersOf`). -/
theorem forall₂_of_parametersOf (h : Plan.parametersOf ps = .ok parameters) :
    List.Forall₂ (fun p x => x.1 = p.name ∧
      identifierOf "placeholder" p.name reservedParameters = .ok x.2) ps parameters := by
  induction ps generalizing parameters with
  | nil =>
    cases h
    exact .nil
  | cons p rest ih =>
    rw [Plan.parametersOf] at h
    obtain ⟨x, hx, hmore⟩ := bind_eq_ok_iff.1 h
    obtain ⟨others, hothers, rfl⟩ := map_eq_ok_iff.1 hmore
    exact .cons ⟨rfl, hx⟩ (ih hothers)

/-- Parameters (`parametersOf`) stand under the names of their placeholders. -/
theorem keys_of_parametersOf (h : Plan.parametersOf ps = .ok parameters) :
    parameters.keys = ps.map (·.name) :=
  (map_eq_map_of_forall₂ (forall₂_of_parametersOf h) fun _ _ hx => hx.1.symm).symm

/-- Each parameter is the identifier (`identifierOf`) of its name. -/
private theorem identifierOf_of_mem (h : Plan.parametersOf ps = .ok parameters)
    {x : String × String}
    (hx : x ∈ parameters) : identifierOf "placeholder" x.1 reservedParameters = .ok x.2 := by
  obtain ⟨p, -, hname, hidentifier⟩ := exists_mem_of_forall₂ (forall₂_of_parametersOf h) hx
  rwa [hname]

/-- Names whose parameters are distinct (`parametersOf`) are distinct, for a parameter is made of
its name alone. -/
theorem nodup_keys_of_values (h : Plan.parametersOf ps = .ok parameters)
    (hvalues : parameters.values.Nodup) : parameters.keys.Nodup := by
  have hsnake : parameters.values = parameters.keys.map snakeCase := by
    rw [Assoc.values, Assoc.keys, List.map_map]
    exact List.map_congr_left fun x hx => eq_snakeCase_of_identifierOf (identifierOf_of_mem h hx)
  rw [hsnake] at hvalues
  exact hvalues.of_map _

/-- The local variables are checked beside the parameters (`parametersOf`): none takes the place of
a parameter, for no placeholder is named like the label of a local variable. -/
theorem withFormatted_of_parametersOf (h : Plan.parametersOf ps = .ok parameters)
    (hunique : ((Plan.withFormatted parameters).map (·.2)).Nodup) :
    (Plan.withFormatted parameters).map (·.2) =
      parameters.values ++ parameters.values.map formattedName := by
  set labelled : List (String × String) :=
    parameters.map fun p => (s!"{p.1} (formatted)", p.2 ++ "_formatted") with hlabelled
  -- a label has a blank in it, which no name of a placeholder with an identifier has
  have hnew : ∀ p ∈ labelled, p.1 ∉ parameters.keys := by
    intro p hp hmem
    obtain ⟨x, -, rfl⟩ := List.mem_map.1 hp
    obtain ⟨y, hy, hname⟩ := List.mem_map.1 hmem
    have hblank : ' ' ∈ y.1.toList := by
      rw [hname, formattedLabel_eq, String.toList_append]
      exact List.mem_append_right _ (by decide)
    have hidentifier := identifierOf_of_mem h hy
    refine not_isIdentifier_snakeCase hblank ?_
    rw [← eq_snakeCase_of_identifierOf hidentifier]
    exact (isVariable_of_identifierOf hidentifier).1
  have hset : Plan.withFormatted parameters = parameters ++ Assoc.ofPairs labelled := by
    have happend := Assoc.foldl_set_append hnew []
    rwa [List.append_nil] at happend
  rw [hset, List.map_append] at hunique ⊢
  -- the labels are distinct since the names are, so each local variable keeps its own
  have hkeys := nodup_keys_of_values h (List.Nodup.of_append_left hunique)
  have hlabels : (labelled.map (·.1)).Nodup := by
    rw [hlabelled, List.map_map]
    have hinjective : Function.Injective fun name : String => s!"{name} (formatted)" := by
      intro a b heq
      simp only [formattedLabel_eq, ← String.toList_inj, String.toList_append] at heq
      exact String.toList_inj.1 (List.append_cancel_right heq)
    have hmap := hkeys.map hinjective
    rwa [Assoc.keys, List.map_map] at hmap
  rw [Assoc.ofPairs_of_nodup hlabels, hlabelled, List.map_map, Assoc.values, List.map_map]
  rfl

/-- Parameters that are checked together with their local variables (`withFormatted`) fit as they
are spelled. -/
private theorem parametersFit_of_checkUnique (h : Plan.parametersOf ps = .ok parameters)
    (hunique : checkUnique "placeholder" (Plan.withFormatted parameters) = .ok ()) :
    ParametersFit id parameters := by
  rw [checkUnique_eq_ok_iff] at hunique
  rw [withFormatted_of_parametersOf h hunique] at hunique
  have hvalue : ∀ x ∈ parameters.values, IsVariable x ∧ x ∉ reservedParameters := by
    intro x hx
    obtain ⟨entry, hentry, rfl⟩ := List.mem_map.1 hx
    have hidentifier := identifierOf_of_mem h hentry
    exact ⟨isVariable_of_identifierOf hidentifier, not_mem_of_identifierOf hidentifier⟩
  -- local variables end in `_formatted`, which is longer than any name that bodies use
  have hshort : ∀ x ∈ reservedParameters, x.length < 10 := by decide
  refine ⟨by rwa [List.map_id],
    List.forall_mem_append.2 ⟨fun x hx => (hvalue x hx).1, fun x hx => ?_⟩,
    List.forall_mem_append.2 ⟨fun x hx => (hvalue x hx).2, fun x hx hreserved => ?_⟩⟩
  · obtain ⟨parameter, hparameter, rfl⟩ := List.mem_map.1 hx
    exact isVariable_formattedName (hvalue parameter hparameter).1
  · obtain ⟨parameter, -, rfl⟩ := List.mem_map.1 hx
    exact formattedName_ne (hshort _ hreserved) rfl

end

/-! ## The parameters of a plan -/

/-- The parameters of every member (`membersOf`) are checked together with their local variables. -/
private theorem checkUnique_of_membersOf {entries : List (Entry × String)} {members : List Member}
    (h : Plan.membersOf entries = .ok members) {m : Member} (hm : m ∈ members) :
    checkUnique "placeholder" (Plan.withFormatted m.parameters) = .ok () := by
  induction entries generalizing members with
  | nil =>
    cases h
    cases hm
  | cons e rest ih =>
    rw [Plan.membersOf] at h
    obtain ⟨parameters, -, hmore⟩ := bind_eq_ok_iff.1 h
    obtain ⟨⟨⟩, hunique, hmore⟩ := bind_eq_ok_iff.1 hmore
    obtain ⟨others, hothers, rfl⟩ := map_eq_ok_iff.1 hmore
    -- the check of the first member has passed, and so have those of the others
    rcases List.mem_cons.1 hm with rfl | hm
    · exact hunique
    · exact ih hothers hm

/-- The parameters of a plan and the local variables for them fit as they are spelled
(`ParametersFit`). -/
theorem parametersFit_of_make {entries : List Entry} {locales : List Locale}
    {templateLocale : Locale} {options : ModuleOptions} {plan : Plan}
    (h : Plan.make entries locales templateLocale options = .ok plan) {m : Member}
    (hm : m ∈ plan.members) : ParametersFit id m.parameters := by
  obtain ⟨methods, -, hmembers, -⟩ := eq_of_make h
  exact parametersFit_of_checkUnique (parametersOf_of_make h hm)
    (checkUnique_of_membersOf hmembers hm)

end Parlance.Code
