import Mathlib.Data.List.Perm.Basic
import Parlance.Proofs.Code.Agreement
import Parlance.Proofs.Collection.Consistency
import Parlance.Proofs.Entry.Recovery
import Parlance.Proofs.Placeholder.Order

/-!
# The module does not depend on the order of bundles

Bundles come in the order of their paths, and all that is built from them keeps that order: drafts,
uses, records of locales, renditions. The module and the report look a locale up by its tag, and the
tags in a collection are distinct, so they find the same in whatever order the bundles came. Bundles
in another order make a collection, entries and a plan if and only if those in the first order do,
and the text of the module and the keys that each locale lacks are the same
(`module_eq_of_perm`).
-/

namespace Parlance

open Code Collection

namespace Entry

/-! ## Entries in another order -/

/-- Whether two entries differ only in the order of their renditions, which are in distinct
locales. -/
structure Reorders (e e' : Entry) : Prop where
  distinct : (e.renditions.map (·.locale.tag)).Nodup
  perm : e.renditions.Perm e'.renditions
  rest : e' = { e with renditions := e'.renditions }

/-- A search that only one item can satisfy finds the same in every order. -/
private theorem find?_eq_of_perm {α : Type} {p : α → Bool} {xs ys : List α} (h : xs.Perm ys)
    (hunique : ∀ x ∈ xs, ∀ y ∈ xs, p x = true → p y = true → x = y) :
    xs.find? p = ys.find? p := by
  cases hx : xs.find? p with
  | none =>
    rw [List.find?_eq_none] at hx
    exact (List.find?_eq_none.2 fun y hy => hx y (h.mem_iff.2 hy)).symm
  | some x =>
    have hmem := List.mem_of_find?_eq_some hx
    cases hy : ys.find? p with
    | none => exact absurd (List.find?_some hx) (List.find?_eq_none.1 hy x (h.mem_iff.1 hmem))
    | some y =>
      have hmem' := h.mem_iff.2 (List.mem_of_find?_eq_some hy)
      -- what is found in both orders has the property, so it is the same
      rw [hunique x hmem y hmem' (List.find?_some hx) (List.find?_some hy)]

/-- A search for a locale (`same`) finds the same in every order, if the locales are distinct. -/
private theorem find?_same_eq_of_perm {α : Type} {localeOf : α → Locale} {xs ys : List α}
    (hdistinct : (xs.map fun x => (localeOf x).tag).Nodup) (h : xs.Perm ys) (locale : Locale) :
    (xs.find? fun x => (localeOf x).same locale) = ys.find? fun x => (localeOf x).same locale := by
  refine find?_eq_of_perm h fun x hx y hy hsame hsame' => ?_
  simp only [Locale.same, beq_iff_eq] at hsame hsame'
  exact List.inj_on_of_nodup_map hdistinct hx hy (hsame.trans hsame'.symm)

/-- The module and the report do not read the order of renditions (`Agree`). -/
theorem Reorders.agree {e e' : Entry} (h : Reorders e e') : e.Agree e' := by
  -- messages and overrides are looked up by the locale of the rendition
  have hfind : ∀ locale, e.renditionFor? locale = e'.renditionFor? locale := fun locale =>
    find?_same_eq_of_perm h.distinct h.perm locale
  obtain ⟨-, -, hrest⟩ := h
  rw [hrest] at hfind ⊢
  refine ⟨rfl, rfl, rfl, rfl, rfl, fun locale => ?_, fun locale => ?_⟩
  · rw [messageFor?, messageFor?, hfind]
  · unfold placeholdersFor
    rw [hfind]

/-- Locales declare placeholders in the order of their drafts (`Draft`). -/
private theorem sublist_redeclared (drafts : List Draft) :
    ((drafts.filterMap fun d =>
      if d.declared.isEmpty then none else some (d.rendition.locale, d.declared)).map (·.1)).Sublist
      (drafts.map (·.rendition.locale)) := by
  induction drafts with
  | nil => exact .slnil
  | cons d rest ih =>
    rw [List.filterMap_cons, List.map_cons]
    cases d.declared.isEmpty with
    | true => exact ih.cons _
    | false => exact ih.cons_cons _

/-- The rendition of a draft, with the placeholders that its locale declares anew. -/
def Draft.settle (overrides : List (Locale × List Resolved)) (d : Draft) : Rendition :=
  { d.rendition with
    overrides := match overrides.find? fun o => o.1.same d.rendition.locale with
      | some o => o.2
      | none => [] }

/-- An entry is made of drafts (`ofDrafts`) if and only if its placeholders are inferred from them;
the rest of it is copied. -/
theorem ofDrafts_eq_ok_iff {key reference : String} {notes : Notes} {drafts : List Draft}
    {e : Entry} :
    ofDrafts key reference notes drafts = .ok e ↔ ∃ inferred : Inferred Locale,
      inferPlaceholders key notes.declared
          (drafts.filterMap fun d =>
            if d.declared.isEmpty then none else some (d.rendition.locale, d.declared))
          (drafts.filterMap fun d => d.rendition.message) = .ok inferred ∧
        Entry.mk key reference notes.description notes.context
          (drafts.map (Draft.settle inferred.overrides)) inferred.template
          (drafts.any (·.failed)) = e :=
  map_eq_ok_iff

/-- Drafts (`ofDrafts`) of distinct locales in another order give an entry with its renditions in
that order. -/
theorem exists_ofDrafts_of_perm {key reference : String} {notes : Notes}
    {drafts drafts' : List Draft} {e : Entry}
    (hdistinct : (drafts.map (·.rendition.locale.tag)).Nodup) (h : drafts.Perm drafts')
    (he : ofDrafts key reference notes drafts = .ok e) :
    ∃ e', ofDrafts key reference notes drafts' = .ok e' ∧ Reorders e e' := by
  obtain ⟨inferred, hinferred, rfl⟩ := ofDrafts_eq_ok_iff.1 he
  obtain ⟨inferred', hinferred', htemplate, hoverrides⟩ :=
    exists_inferPlaceholders_of_perm (h.filterMap _) (h.filterMap _) hinferred
  -- the records of a locale are found by its tag, and so in every order
  have hsettle : Draft.settle inferred'.overrides = Draft.settle inferred.overrides := by
    obtain ⟨usages, -, -, hall⟩ := inferPlaceholders_eq_ok_iff.1 hinferred
    have hsub := ((sublist_allOverrides hall).trans (sublist_redeclared drafts)).map Locale.tag
    rw [List.map_map, List.map_map] at hsub
    have hfind := find?_same_eq_of_perm (hdistinct.sublist hsub) hoverrides
    funext d
    unfold Draft.settle
    rw [← hfind]
  have hperm := h.map (Draft.settle inferred.overrides)
  refine ⟨_, ofDrafts_eq_ok_iff.2 ⟨inferred', hinferred', rfl⟩, ?_⟩
  rw [htemplate, hsettle, ← h.any_eq]
  refine ⟨?_, hperm, rfl⟩
  rw [List.map_map]
  exact hdistinct

/-- The entry of a key that is built from bundles of distinct locales is built from them in any
order, and only the order of its renditions differs (`Reorders`). -/
theorem exists_build_of_perm {options : EntryOptions} {template : Bundle}
    {directory key : String} {bundles bundles' : List Bundle} {e : Entry}
    (hdistinct : (tagsOf bundles).Nodup) (h : bundles.Perm bundles')
    (he : (build options template ⟨directory, bundles⟩ key).result = .ok e) :
    ∃ e', (build options template ⟨directory, bundles'⟩ key).result = .ok e' ∧ Reorders e e' := by
  obtain ⟨reference, hreference, he⟩ := Logged.bind_result_eq_ok_iff.1 he
  obtain ⟨notes, hnotes, he⟩ := Logged.bind_result_eq_ok_iff.1 he
  obtain ⟨drafts, hdrafts, he⟩ := Logged.bind_result_eq_ok_iff.1 he
  have hforall := Logged.traverse_result_eq_ok_iff.1 hdrafts
  -- each bundle has the same draft, wherever it stands
  obtain ⟨drafts', hforall', hperm⟩ := List.perm_comp_forall₂ h.symm hforall
  have hlocales : drafts.map (·.rendition.locale.tag) = tagsOf bundles :=
    (map_eq_map_of_forall₂ hforall fun b d hd => by rw [locale_of_draft hd]).symm
  obtain ⟨e', he', hreorders⟩ := exists_ofDrafts_of_perm (hlocales ▸ hdistinct) hperm.symm
    (mapError_eq_ok_iff.1 he)
  refine ⟨e', ?_, hreorders⟩
  apply Logged.bind_result_eq_ok_iff.2
  refine ⟨reference, hreference, ?_⟩
  apply Logged.bind_result_eq_ok_iff.2
  refine ⟨notes, hnotes, ?_⟩
  apply Logged.bind_result_eq_ok_iff.2
  exact ⟨drafts', Logged.traverse_result_eq_ok_iff.2 hforall', mapError_eq_ok_iff.2 he'⟩

end Entry

/-! ## The module -/

/-- Whether a module can be made of some bundles: they make a collection, its entries are those of
all keys of the template, and there is a plan of them. -/
structure Makes (directory : String) (options : EntryOptions) (template : Bundle)
    (locales : List Locale) (templateLocale : Locale) (moduleOptions : ModuleOptions)
    (bundles : List Bundle) (entries : List Entry) (plan : Plan) : Prop where
  built : ∃ collection, ofBundles directory bundles = .ok collection ∧
    (Logged.traverse (Entry.build options template collection) template.keys).result = .ok entries
  planned : Plan.make entries locales templateLocale moduleOptions = .ok plan

section

variable {directory : String} {options : EntryOptions} {template : Bundle} {locales : List Locale}
  {templateLocale : Locale} {moduleOptions : ModuleOptions} {bundles bundles' : List Bundle}

/-- The entries of all keys that are built (`build`) from bundles are built from them in any order.
-/
theorem exists_entries_of_perm (h : bundles.Perm bundles') (hdistinct : (tagsOf bundles).Nodup)
    {keys : List String} {entries : List Entry}
    (hentries : (Logged.traverse (Entry.build options template ⟨directory, bundles⟩) keys).result =
      .ok entries) :
    ∃ entries', (Logged.traverse (Entry.build options template ⟨directory, bundles'⟩) keys).result =
        .ok entries' ∧ List.Forall₂ Entry.Agree entries entries' := by
  have hforall := Logged.traverse_result_eq_ok_iff.1 hentries
  clear hentries
  -- the keys keep their order, so the entries are related one by one
  induction hforall with
  | nil => exact ⟨[], rfl, .nil⟩
  | cons hfirst _ ih =>
    obtain ⟨e', he', hreorders⟩ := Entry.exists_build_of_perm hdistinct h hfirst
    obtain ⟨entries', hentries', hagree⟩ := ih
    refine ⟨e' :: entries', ?_, .cons hreorders.agree hagree⟩
    exact Logged.traverse_result_eq_ok_iff.2
      (.cons he' (Logged.traverse_result_eq_ok_iff.1 hentries'))

/-- A module that can be made of some bundles (`Makes`) can be made of them in any order, from
entries that agree. -/
theorem exists_makes_of_perm (h : bundles.Perm bundles') {entries : List Entry} {plan : Plan}
    (hmakes : Makes directory options template locales templateLocale moduleOptions bundles entries
      plan) :
    ∃ entries' plan', Makes directory options template locales templateLocale moduleOptions bundles'
      entries' plan' ∧ List.Forall₂ Entry.Agree entries entries' ∧ plan.Agree plan' := by
  obtain ⟨⟨collection, hcollection, hentries⟩, hplan⟩ := hmakes
  have hcollection' := ofBundles_of_perm h hcollection
  obtain ⟨hdistinct, -, rfl⟩ := ofBundles_eq_ok_iff.1 hcollection
  obtain ⟨entries', hentries', hagree⟩ := exists_entries_of_perm h hdistinct hentries
  have halike := alike_make hagree locales templateLocale moduleOptions
  rw [hplan] at halike
  generalize hplan' : Plan.make entries' locales templateLocale moduleOptions = made at halike
  cases halike with
  | ok hplans => exact ⟨entries', _, ⟨⟨_, hcollection', hentries'⟩, hplan'⟩, hagree, hplans⟩

/-- Bundles decide about the entries and the plan (`Makes`). -/
theorem Makes.unique {entries entries' : List Entry} {plan plan' : Plan}
    (h : Makes directory options template locales templateLocale moduleOptions bundles entries plan)
    (h' : Makes directory options template locales templateLocale moduleOptions bundles entries'
      plan') : entries = entries' ∧ plan = plan' := by
  obtain ⟨⟨collection, hcollection, hentries⟩, hplan⟩ := h
  obtain ⟨⟨collection', hcollection', hentries'⟩, hplan'⟩ := h'
  cases hcollection.symm.trans hcollection'
  cases hentries.symm.trans hentries'
  cases hplan.symm.trans hplan'
  exact ⟨rfl, rfl⟩

end

/-- Bundles in another order give the same module and the same report (`emit`, `missingKeys`), or
both give none. -/
theorem module_eq_of_perm {bundles bundles' : List Bundle} (h : bundles.Perm bundles')
    (directory : String) (options : EntryOptions) (template : Bundle) (locales : List Locale)
    (templateLocale : Locale) (moduleOptions : ModuleOptions) :
    ((∃ entries plan, Makes directory options template locales templateLocale moduleOptions bundles
        entries plan) ↔
      ∃ entries plan, Makes directory options template locales templateLocale moduleOptions bundles'
        entries plan) ∧
    ∀ entries plan entries' plan',
      Makes directory options template locales templateLocale moduleOptions bundles entries plan →
      Makes directory options template locales templateLocale moduleOptions bundles' entries'
        plan' →
      emit plan = emit plan' ∧
        ∀ locale, Session.missingKeys entries locale = Session.missingKeys entries' locale := by
  refine ⟨⟨?_, ?_⟩, ?_⟩
  · rintro ⟨entries, plan, hmakes⟩
    obtain ⟨entries', plan', hmakes', -⟩ := exists_makes_of_perm h hmakes
    exact ⟨entries', plan', hmakes'⟩
  · rintro ⟨entries, plan, hmakes⟩
    obtain ⟨entries', plan', hmakes', -⟩ := exists_makes_of_perm h.symm hmakes
    exact ⟨entries', plan', hmakes'⟩
  · intro entries plan entries' plan' hmakes hmakes'
    -- the second order can only give what the first one says it gives
    obtain ⟨entries'', plan'', hmakes'', hagree, hplans⟩ := exists_makes_of_perm h hmakes
    obtain ⟨rfl, rfl⟩ := hmakes''.unique hmakes'
    exact ⟨emit_of_agree hplans, missingKeys_of_agree hagree⟩

/-- A bundle for a region of the language in which the message cannot be read. -/
def swissGuests : Bundle :=
  ⟨"l10n/app_de_CH.arb", ⟨"de", none, some "CH", "de_CH"⟩,
    [("guests", .text "\x7bn\x7d Gäst")]⟩

/-- The three bundles (`germanGuests`, `swissGuests`, `englishGuests`) give one module in both
orders. -/
theorem module_eq_of_perm_guests :
    [Entry.germanGuests, swissGuests, Entry.englishGuests].Perm
      [Entry.englishGuests, swissGuests, Entry.germanGuests] ∧
    ∃ entries plan entries' plan',
      Makes "l10n" .standard Entry.englishGuests [swissGuests.locale, Entry.englishGuests.locale]
        Entry.englishGuests.locale .standard
        [Entry.germanGuests, swissGuests, Entry.englishGuests] entries plan ∧
      Makes "l10n" .standard Entry.englishGuests [swissGuests.locale, Entry.englishGuests.locale]
        Entry.englishGuests.locale .standard
        [Entry.englishGuests, swissGuests, Entry.germanGuests] entries' plan' ∧
      emit plan = emit plan' ∧
      ∀ locale, Session.missingKeys entries locale = Session.missingKeys entries' locale := by
  have hperm : [Entry.germanGuests, swissGuests, Entry.englishGuests].Perm
      [Entry.englishGuests, swissGuests, Entry.germanGuests] :=
    (List.reverse_perm [Entry.englishGuests, swissGuests, Entry.germanGuests])
  obtain ⟨hiff, heq⟩ := module_eq_of_perm hperm "l10n" .standard Entry.englishGuests
    [swissGuests.locale, Entry.englishGuests.locale] Entry.englishGuests.locale .standard
  have hmade : (((ofBundles "l10n" [Entry.germanGuests, swissGuests, Entry.englishGuests]).mapError
      Failure.fault).bind fun collection =>
        (Logged.traverse (Entry.build .standard Entry.englishGuests collection)
          Entry.englishGuests.keys).result.bind fun entries =>
        ((Plan.make entries [swissGuests.locale, Entry.englishGuests.locale]
          Entry.englishGuests.locale .standard).mapError Failure.fault).map
            (·.members.length)) = .ok 1 := by
    decide +kernel
  obtain ⟨collection, hcollection, hmade⟩ := bind_eq_ok_iff.1 hmade
  obtain ⟨entries, hentries, hmade⟩ := bind_eq_ok_iff.1 hmade
  obtain ⟨plan, hplan, -⟩ := map_eq_ok_iff.1 hmade
  have hmakes : Makes "l10n" .standard Entry.englishGuests
      [swissGuests.locale, Entry.englishGuests.locale] Entry.englishGuests.locale .standard
      [Entry.germanGuests, swissGuests, Entry.englishGuests] entries plan :=
    ⟨⟨collection, mapError_eq_ok_iff.1 hcollection, hentries⟩, mapError_eq_ok_iff.1 hplan⟩
  -- the other order makes a module as well
  obtain ⟨entries', plan', hmakes'⟩ := hiff.1 ⟨entries, plan, hmakes⟩
  exact ⟨hperm, entries, plan, entries', plan', hmakes, hmakes',
    heq entries plan entries' plan' hmakes hmakes'⟩

end Parlance
