import Parlance.Code.Module
import Parlance.Proofs.Code.Image
import Parlance.Proofs.Entry.Building

/-!
# The members of a plan declare their placeholders

A plan has one member for each entry (`map_entry_of_make`). It is made only if every placeholder has
an identifier that is no keyword. So an accessor has a variable for each of its placeholders,
however the locale formats them (`declares_of_make`).
-/

namespace Parlance.Code

open Plan

/-- The identifier (`identifierOf`) of a name is a variable. -/
theorem isVariable_of_identifierOf {kind name identifier : String} {reserved : List String}
    (h : identifierOf kind name reserved = .ok identifier) : IsVariable identifier := by
  dsimp only [identifierOf] at h
  split at h
  · cases h
  · next hname =>
    split at h
    · cases h
    · cases h
      simpa [IsVariable] using hname

/-- The identifier (`identifierOf`) of a name is the name in lower case with its words apart. -/
theorem eq_snakeCase_of_identifierOf {kind name identifier : String} {reserved : List String}
    (h : identifierOf kind name reserved = .ok identifier) : identifier = snakeCase name := by
  dsimp only [identifierOf] at h
  split at h
  · cases h
  · split at h
    · cases h
    · cases h
      rfl

/-- The identifier (`identifierOf`) of a name is none that is reserved. -/
theorem not_mem_of_identifierOf {kind name identifier : String} {reserved : List String}
    (h : identifierOf kind name reserved = .ok identifier) : identifier ∉ reserved := by
  dsimp only [identifierOf] at h
  split at h
  · cases h
  · split at h
    · cases h
    · next hfree =>
      cases h
      simpa using hfree

/-- The parameters of placeholders (`parametersOf`) give a variable for each of their names. -/
theorem exists_parameter {ps : List Resolved} {parameters : Assoc String}
    (h : parametersOf ps = .ok parameters) {name : String} (hname : name ∈ ps.map (·.name)) :
    ∃ x, parameters.get? name = some x ∧ IsVariable x := by
  induction ps generalizing parameters with
  | nil => simp at hname
  | cons p rest ih =>
    rw [parametersOf] at h
    obtain ⟨x, hx, hmore⟩ := bind_eq_ok_iff.1 h
    obtain ⟨others, hothers, rfl⟩ := map_eq_ok_iff.1 hmore
    rw [Assoc.get?_cons]
    -- the first placeholder has the name, or it is found among the others
    split
    · exact ⟨x, rfl, isVariable_of_identifierOf hx⟩
    · next hne =>
      rcases List.mem_cons.1 hname with heq | hrest
      · exact absurd heq.symm hne
      · exact ih hothers hrest

/-- Each member (`membersOf`) has an entry with its accessor, and the parameters of its
placeholders. -/
theorem forall₂_of_membersOf {entries : List (Entry × String)} {members : List Member}
    (h : membersOf entries = .ok members) :
    List.Forall₂ (fun e m => m.entry = e.1 ∧ m.method = e.2 ∧
      parametersOf m.entry.placeholders = .ok m.parameters) entries members := by
  induction entries generalizing members with
  | nil =>
    cases h
    exact .nil
  | cons e rest ih =>
    rw [membersOf] at h
    obtain ⟨parameters, hparameters, hmore⟩ := bind_eq_ok_iff.1 h
    -- the second step only checks that the names are distinct
    obtain ⟨-, -, hmore⟩ := bind_eq_ok_iff.1 hmore
    obtain ⟨others, hothers, rfl⟩ := map_eq_ok_iff.1 hmore
    exact .cons ⟨rfl, rfl, hparameters⟩ (ih hothers)

/-- Each entry has the identifier of its key (`identifierOf`) for an accessor. -/
theorem forall₂_of_methodNames {entries : List Entry} {methods : List (String × String)}
    (h : methodNames entries = .ok methods) :
    List.Forall₂ (fun e p => p.1 = e.key ∧
      identifierOf "message key" e.key reservedMembers = .ok p.2) entries methods := by
  induction entries generalizing methods with
  | nil =>
    cases h
    exact .nil
  | cons e rest ih =>
    rw [methodNames] at h
    obtain ⟨m, hm, hmore⟩ := bind_eq_ok_iff.1 h
    obtain ⟨others, hothers, rfl⟩ := map_eq_ok_iff.1 hmore
    exact .cons ⟨rfl, hm⟩ (ih hothers)

section

variable {entries : List Entry} {locales : List Locale} {templateLocale : Locale}
  {options : ModuleOptions} {plan : Plan}

/-- A plan (`make`) has the locales it is made for with their classes, and the members of its
entries. -/
theorem eq_of_make (h : make entries locales templateLocale options = .ok plan) :
    ∃ methods, methodNames entries = .ok methods ∧
      membersOf (entries.zip (methods.map (·.2))) = .ok plan.members ∧
      plan.locales = locales ∧ plan.classNames = classNamesOf options.outputClass locales := by
  dsimp only [make] at h
  split at h
  · cases h
  · obtain ⟨-, -, h⟩ := bind_eq_ok_iff.1 h
    obtain ⟨methods, hmethods, h⟩ := bind_eq_ok_iff.1 h
    obtain ⟨-, -, h⟩ := bind_eq_ok_iff.1 h
    obtain ⟨members, hmembers, rfl⟩ := map_eq_ok_iff.1 h
    exact ⟨methods, hmethods, hmembers, rfl, rfl⟩

/-- A plan has one member for each entry (`members`), in order. -/
theorem map_entry_of_make (h : make entries locales templateLocale options = .ok plan) :
    plan.members.map (·.entry) = entries := by
  obtain ⟨methods, hmethods, hmembers, -⟩ := eq_of_make h
  have hlength := (forall₂_of_methodNames hmethods).length_eq
  rw [← map_eq_map_of_forall₂ (forall₂_of_membersOf hmembers) fun e m hm => hm.1.symm]
  exact List.map_fst_zip (by rw [List.length_map, hlength])

/-- The parameters (`parametersOf`) of a member are those of the placeholders of its entry. -/
theorem parametersOf_of_make (h : make entries locales templateLocale options = .ok plan)
    {m : Member} (hm : m ∈ plan.members) :
    parametersOf m.entry.placeholders = .ok m.parameters := by
  obtain ⟨methods, -, hmembers, -⟩ := eq_of_make h
  obtain ⟨e, -, -, -, hparameters⟩ := exists_mem_of_forall₂ (forall₂_of_membersOf hmembers) hm
  exact hparameters

/-- A locale has every placeholder of an entry (`placeholdersFor`). -/
theorem exists_placeholderFor {e : Entry} (locale : Locale) {name : String}
    (h : name ∈ e.placeholders.map (·.name)) :
    ∃ p, (e.placeholdersFor locale).find? (·.name == name) = some p := by
  rw [← e.map_name_placeholdersFor locale] at h
  obtain ⟨p, hp, rfl⟩ := List.mem_map.1 h
  rw [← Option.isSome_iff_exists, List.find?_isSome]
  exact ⟨p, hp, beq_self_eq_true _⟩

/-- In the scope of an accessor (`Declares`) every placeholder of its entry has a variable. -/
theorem declares_of_make (h : make entries locales templateLocale options = .ok plan) {m : Member}
    (hm : m ∈ plan.members) (locale : Locale) :
    Declares ⟨m.entry.placeholdersFor locale, m.parameters, plan.options.formats⟩
      (m.entry.placeholders.map (·.name)) := by
  have hparameters := parametersOf_of_make h hm
  constructor
  · intro name hname
    obtain ⟨x, hx, -⟩ := exists_parameter hparameters hname
    exact ⟨exists_placeholderFor locale hname, x, hx⟩
  · intro name hname
    obtain ⟨x, hx, hvariable⟩ := exists_parameter hparameters hname
    rwa [Scope.parameterOf, Scope.parameter?, hx]

end

end Parlance.Code
