import Parlance.Proofs.Code.Bodies
import Parlance.Proofs.Code.Members

/-!
# A plan that is made can be written

Writing a module looks names up without asking whether they are there: the class of every locale,
the parameter of every placeholder, and the placeholder of every name in a message. `Resolves` says
that all of them are found, and then there is a text (`exists_emit`). Plans of entries that were
built resolve, for the entries know all names in their messages (`exists_emit_of_make`).
-/

namespace Parlance.Code

open Parlance.Grammar

/-- Whether every name that writing a plan looks up is found. -/
structure Plan.Resolves (plan : Plan) : Prop where
  nonempty : plan.locales ≠ []
  classes : ∀ l ∈ plan.locales, ∃ c, plan.className? l = some c
  parameters : ∀ m ∈ plan.members, ∀ p ∈ m.entry.placeholders,
    ∃ x, m.parameters.get? p.name = some x
  bodies : ∀ m ∈ plan.members, ∀ l, ∃ statements, statementsFor plan l m = .ok statements

/-! ## Blocks of a module -/

/-- `joinMapped f` succeeds if `f` does for each member. -/
private theorem exists_joinMapped {f : Member → Except Failure String} {members : List Member}
    (h : ∀ m ∈ members, ∃ s, f m = .ok s) : ∃ s, joinMapped f members = .ok s := by
  induction members with
  | nil => exact ⟨"", rfl⟩
  | cons m rest ih =>
    obtain ⟨hm, hrest⟩ := List.forall_mem_cons.1 h
    rw [joinMapped]
    exact exists_bind_eq_ok hm fun s => exists_map_eq_ok (ih hrest)

section

variable {plan : Plan}

/-- An accessor has a head (`accessorHead`) if each of its placeholders has a parameter. -/
private theorem exists_accessorHead {m : Member}
    (h : ∀ p ∈ m.entry.placeholders, ∃ x, m.parameters.get? p.name = some x) (isAbstract : Bool) :
    ∃ s, accessorHead plan m isAbstract = .ok s := by
  rw [accessorHead]
  split
  · exact ⟨_, rfl⟩
  · -- only the list of parameters can fail, by a placeholder without one
    refine exists_map_eq_ok ?_
    obtain ⟨ps, hps⟩ : ∃ ps, m.entry.placeholders.mapM (fun p =>
        (m.parameters.get? p.name).map fun i => s!"{i}: {p.type.annotation}") = some ps := by
      refine exists_mapM_eq_some fun p hp => ?_
      obtain ⟨x, hx⟩ := h p hp
      exact ⟨_, by rw [hx]; rfl⟩
    rw [parameterList, hps]
    exact ⟨_, rfl⟩

variable (h : plan.Resolves)

include h

/-- The base class (`baseClassBlock`) can be written. -/
private theorem exists_baseClassBlock : ∃ s, baseClassBlock plan = .ok s := by
  have hfallback : ∃ c, defaultClass plan = .ok c := by
    rw [defaultClass]
    -- the first locale has a class, if not the one of the template
    cases hlocales : plan.locales with
    | nil => exact absurd hlocales h.nonempty
    | cons first rest =>
      obtain ⟨c, hc⟩ := h.classes first (by simp [hlocales])
      cases plan.className? plan.templateLocale with
      | some own => exact ⟨own, by simp⟩
      | none => exact ⟨c, by simp [hc]⟩
  rw [baseClassBlock]
  refine exists_bind_eq_ok ?_ fun fallback => exists_map_eq_ok (exists_joinMapped fun m hm => ?_)
  · split
    · exact ⟨_, rfl⟩
    · exact exists_map_eq_ok hfallback
  · exact exists_map_eq_ok (exists_accessorHead (h.parameters m hm) true)

/-- The class of each locale (`localeClassBlock`) of the plan can be written. -/
private theorem exists_localeClassBlock {l : Locale} (hl : l ∈ plan.locales) :
    ∃ s, localeClassBlock plan l = .ok s := by
  obtain ⟨c, hc⟩ := h.classes l hl
  rw [localeClassBlock]
  refine exists_bind_eq_ok (exists_joinMapped fun m hm => ?_) fun members => ?_
  · exact exists_bind_eq_ok (h.bodies m hm l) fun statements =>
      exists_map_eq_ok (exists_accessorHead (h.parameters m hm) false)
  · rw [hc]
    exact ⟨_, rfl⟩

/-- So can the classes of some of them. -/
private theorem exists_localeClassBlocks {locales : List Locale} (hsub : locales ⊆ plan.locales) :
    ∃ ss, localeClassBlocks plan locales = .ok ss := by
  induction locales with
  | nil => exact ⟨[], rfl⟩
  | cons l rest ih =>
    obtain ⟨hl, hrest⟩ := List.cons_subset.1 hsub
    rw [localeClassBlocks]
    exact exists_bind_eq_ok (exists_localeClassBlock h hl) fun s => exists_map_eq_ok (ih hrest)

/-- The tables (`factoriesBlock`) can be written. -/
private theorem exists_factoriesBlock : ∃ s, factoriesBlock plan = .ok s := by
  have hentries : ∃ ss, plan.locales.mapM (factoryEntry plan) = .ok ss := by
    simp only [mapM_eq_ok_iff, exists_forall₂_iff]
    intro l hl
    obtain ⟨c, hc⟩ := h.classes l hl
    rw [factoryEntry, hc]
    exact ⟨_, rfl⟩
  exact exists_map_eq_ok hentries

/-- A plan whose names are all found is written (`emit`). -/
theorem exists_emit : ∃ s, emit plan = .ok s := by
  refine exists_map_eq_ok (exists_bind_eq_ok (exists_baseClassBlock h) fun base => ?_)
  exact exists_bind_eq_ok (exists_localeClassBlocks h (List.Subset.refl _)) fun classes =>
    exists_map_eq_ok (exists_factoriesBlock h)

end

/-! ## Plans of entries that were built -/

/-- Whether the accessor of an entry finds what it looks up for the message of a locale: the walk
through the message comes to its end, and each name in it has a placeholder, also as the locale
formats it, and a parameter. -/
structure Member.Knows (m : Member) (locale : Locale) (message : Message) : Prop where
  complete : (Usages.collect [] message).2 = true
  placeholder : ∀ name use, Occurs message name use → name ∈ m.entry.placeholders.map (·.name)
  formatted : ∀ name use, Occurs message name use →
    name ∈ (m.entry.placeholdersFor locale).map (·.name)
  parameter : ∀ name use, Occurs message name use → ∃ x, m.parameters.get? name = some x

/-- The message of a coherent entry in a locale is well formed (`WellFormed`), nested no deeper than
messages are, and names only placeholders of the entry. -/
theorem wellFormed_of_coherent {e : Entry} (h : e.Coherent) {locale : Locale} {message : Message}
    (hmessage : e.messageFor? locale = some message) :
    (∃ texts, WellFormed texts message) ∧
      nestingOfNodes message ≤ ReadingOptions.defaultLimit.toNat ∧
      messageNames message ⊆ e.placeholders.map (·.name) := by
  obtain ⟨r, hr, hrendition⟩ := Entry.exists_rendition_of_messageFor? hmessage
  obtain ⟨reading, text, hlimit, hparse⟩ := h.read r hr message hrendition
  obtain ⟨hwell, hnesting⟩ := wellFormed_of_parse hparse
  refine ⟨⟨_, hwell⟩, hlimit ▸ hnesting, fun name hname => ?_⟩
  obtain ⟨use, huse⟩ := (mem_messageNames_iff name message).1 hname
  exact h.named r hr message hrendition name use huse

section

variable {entries : List Entry} {locales : List Locale} {templateLocale : Locale}
  {options : ModuleOptions} {plan : Plan}

/-- Each of the `locales` that a plan is made for has a class. -/
private theorem exists_className_of_make
    (h : Plan.make entries locales templateLocale options = .ok plan)
    {l : Locale} (hl : l ∈ locales) : ∃ c, plan.className? l = some c := by
  obtain ⟨-, -, -, -, hclasses⟩ := eq_of_make h
  rw [Plan.className?, hclasses]
  refine Assoc.exists_get?_ofPairs ?_
  rw [List.map_map]
  exact List.mem_map_of_mem hl

variable (h : Plan.make entries locales templateLocale options = .ok plan)
  (hcoherent : ∀ e ∈ entries, e.Coherent)

include h hcoherent

/-- A member has one of the entries that the plan is made of, and so a coherent (`Coherent`) one. -/
theorem coherent_of_mem {m : Member} (hm : m ∈ plan.members) : m.entry.Coherent :=
  hcoherent _ (map_entry_of_make h ▸ List.mem_map_of_mem hm)

/-- The accessor of a coherent entry knows (`Knows`) the messages of all locales. -/
private theorem knows_of_make {m : Member} (hm : m ∈ plan.members) {locale : Locale}
    {message : Message}
    (hmessage : m.entry.messageFor? locale = some message) : m.Knows locale message := by
  obtain ⟨-, hnesting, hnames⟩ :=
    wellFormed_of_coherent (coherent_of_mem h hcoherent hm) hmessage
  have hnamed : ∀ name use, Occurs message name use → name ∈ m.entry.placeholders.map (·.name) :=
    fun name use huse => hnames ((mem_messageNames_iff name message).2 ⟨use, huse⟩)
  refine ⟨complete_collect [] hnesting, hnamed, ?_, fun name use huse => ?_⟩
  · rw [m.entry.map_name_placeholdersFor locale]
    exact hnamed
  · exact ((declares_of_make h hm locale).1 name (hnamed name use huse)).2

/-- The accessor of a coherent entry has a body (`statementsFor`) in every locale. -/
private theorem exists_statementsFor_of_make {m : Member} (hm : m ∈ plan.members) (locale : Locale)
    : ∃ statements, statementsFor plan locale m = .ok statements := by
  rw [statementsFor]
  cases hmessage : m.entry.messageFor? locale with
  | none => exact ⟨_, rfl⟩
  | some message =>
    obtain ⟨⟨texts, hwell⟩, hnesting, hnames⟩ :=
      wellFormed_of_coherent (coherent_of_mem h hcoherent hm) hmessage
    obtain ⟨formats, e, -, hbody⟩ :=
      bodyOf_eq hwell hnesting ((declares_of_make h hm locale).1.subset hnames)
    exact ⟨_, hbody⟩

/-- In a plan of coherent entries all names are found (`Resolves`). -/
theorem resolves_of_make (hlocales : locales ≠ []) : plan.Resolves := by
  obtain ⟨-, -, -, heq, -⟩ := eq_of_make h
  refine ⟨heq ▸ hlocales, fun l hl => exists_className_of_make h (heq ▸ hl), ?_,
    fun m hm l => exists_statementsFor_of_make h hcoherent hm l⟩
  intro m hm p hp
  obtain ⟨x, hx, -⟩ := exists_parameter (parametersOf_of_make h hm) (List.mem_map_of_mem hp)
  exact ⟨x, hx⟩

end

/-- A plan that is made of the entries (`make`) of all keys of a template is written: it has a
member for each entry, every name that its accessors look up is found in every locale, and the
module has a text. -/
theorem exists_emit_of_make {options : EntryOptions} {template : Bundle} {collection : Collection}
    {entries : List Entry}
    (hentries : (Logged.traverse (Entry.build options template collection) template.keys).result =
      .ok entries)
    {locales : List Locale} (hlocales : locales ≠ []) {templateLocale : Locale}
    {moduleOptions : ModuleOptions} {plan : Plan}
    (hplan : Plan.make entries locales templateLocale moduleOptions = .ok plan) :
    plan.members.map (·.entry) = entries ∧ plan.Resolves ∧
    (∀ m ∈ plan.members, ∀ locale message, m.entry.messageFor? locale = some message →
      m.Knows locale message) ∧
    ∃ text, emit plan = .ok text := by
  have hcoherent : ∀ e ∈ entries, e.Coherent := by
    intro e he
    obtain ⟨key, -, hbuild⟩ :=
      exists_mem_of_forall₂ (Logged.traverse_result_eq_ok_iff.1 hentries) he
    exact Entry.coherent_of_build hbuild
  have hresolves := resolves_of_make hplan hcoherent hlocales
  exact ⟨map_entry_of_make hplan, hresolves, fun m hm locale message hmessage =>
    knows_of_make hplan hcoherent hm hmessage, exists_emit hresolves⟩

/-- A template with a plural. -/
def guestsTemplate : Bundle :=
  ⟨"l10n/app_en.arb", ⟨"en", none, none, "en"⟩,
    [("guests", .text "{n,plural,=0{none}other{{n} guests}}")]⟩

/-- The same message with a name that the template lacks, and a format for the count. -/
def guestsTranslation : Bundle :=
  ⟨"l10n/app_de.arb", ⟨"de", none, none, "de"⟩,
    [("guests", .text "{n} bei {host}"),
     ("@guests", .object [("placeholders", .object
       [("n", .object [("type", .text "num"), ("format", .text "decimalPattern")])])])]⟩

def guestsCollection : Collection := ⟨"l10n", [guestsTranslation, guestsTemplate]⟩

/-- The entry of the message, with both names as placeholders. -/
def guestsEntry : Entry where
  key := "guests"
  reference := "{n,plural,=0{none}other{{n} guests}}"
  description := none
  context := none
  renditions :=
    [⟨⟨"de", none, none, "de"⟩, "app_de.arb", some "{n} bei {host}",
      some [.reference "n" ⟨0, 3⟩, .text " bei " ⟨3, 8⟩, .reference "host" ⟨8, 14⟩],
      [⟨⟨"n", some .num, some "decimalPattern", none, [], none⟩, .num, true, false, false, false,
        true⟩]⟩,
     ⟨⟨"en", none, none, "en"⟩, "app_en.arb", some "{n,plural,=0{none}other{{n} guests}}",
      some [.choice .plural "n"
        [.mk (.exact 0) [.text "none" ⟨13, 17⟩] ⟨10, 18⟩,
         .mk .other [.reference "n" ⟨24, 27⟩, .text " guests" ⟨27, 34⟩] ⟨18, 35⟩] ⟨0, 36⟩], []⟩]
  placeholders :=
    [⟨.bare "host", .object, false, false, false, false, true⟩,
     ⟨.bare "n", .num, true, false, false, false, true⟩]
  hadErrors := false

/-- A module that falls back to the template. -/
def guestsModule : ModuleOptions := { ModuleOptions.standard with nullableGetter := false }

/-- An entry with a plural (`guestsEntry`) in two locales. -/
theorem exists_emit_of_make_guests :
    (Logged.traverse (Entry.build .standard guestsTemplate guestsCollection)
      guestsTemplate.keys).result = .ok [guestsEntry] ∧
    guestsCollection.locales ≠ [] ∧
    ∃ plan, Plan.make [guestsEntry] guestsCollection.locales guestsTemplate.locale guestsModule =
        .ok plan ∧
      plan.members.map (·.entry) = [guestsEntry] ∧ plan.Resolves ∧
      (∀ m ∈ plan.members, ∀ locale message, m.entry.messageFor? locale = some message →
        m.Knows locale message) ∧
      ∃ text, emit plan = .ok text := by
  have hentries : (Logged.traverse (Entry.build .standard guestsTemplate guestsCollection)
      guestsTemplate.keys).result = .ok [guestsEntry] := by
    -- evaluation does not get through `mergeSort`, which sorts the names without declaration
    unfold Entry.build Entry.ofDrafts
    simp only [inferPlaceholders, Inferred.templateOf, undeclaredNames_eq_insertionSort]
    decide +kernel
  have hlocales : guestsCollection.locales ≠ [] := by decide
  have hmake : (Plan.make [guestsEntry] guestsCollection.locales guestsTemplate.locale
      guestsModule).map (fun plan => plan.members.length) = .ok 1 := by
    decide +kernel
  obtain ⟨plan, hplan, -⟩ := map_eq_ok_iff.1 hmake
  exact ⟨hentries, hlocales, plan, hplan, exists_emit_of_make hentries hlocales hplan⟩

end Parlance.Code
