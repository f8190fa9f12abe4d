import Parlance.Entry
import Parlance.Proofs.Placeholder.Inference

/-!
# Entries know the names in their messages

The placeholders of an entry are inferred from its messages in all locales at once. So in an entry
that is built every message was read within the limit of nesting, and every name that occurs in one
is the name of a placeholder (`coherent_of_build`), also as any locale formats it
(`map_name_placeholdersFor`).
-/

namespace Parlance.Entry

/-- Whether the messages of an entry were read, and name only placeholders of the entry. -/
structure Coherent (e : Entry) : Prop where
  read : ∀ r ∈ e.renditions, ∀ m, r.message = some m →
    ∃ options text, options.limit = ReadingOptions.defaultLimit ∧
      Message.parse options text = .ok m
  named : ∀ r ∈ e.renditions, ∀ m, r.message = some m → ∀ name use, Occurs m name use →
    name ∈ e.placeholders.map (·.name)

/-! ## Messages of drafts -/

section

variable {options : EntryOptions} {notes : Notes} {key : String} {bundle : Bundle}

/-- The message (`messageOf`) of a rendition, if it has one, was read from its text, and else the
text, if there is one, was refused outside of the template. -/
theorem messageOf_cases {isTemplate : Bool} {translation : Option String} {reading : Reading}
    (h : (messageOf options notes key bundle isTemplate translation).result = .ok reading) :
    (translation = none ∧ reading = ⟨none, false⟩) ∨
      (∃ text m, translation = some text ∧
        Message.parse (readingOptions options notes) text = .ok m ∧ reading = ⟨some m, false⟩) ∨
      (isTemplate = false ∧ (∃ text, translation = some text) ∧ reading = ⟨none, true⟩) := by
  cases translation with
  | none =>
    cases h
    exact .inl ⟨rfl, rfl⟩
  | some text =>
    rw [messageOf] at h
    split at h
    · next hparse =>
      cases h
      exact .inr (.inl ⟨text, _, rfl, hparse, rfl⟩)
    · cases h
    · -- a text that is no message fails or leaves the rendition without one
      dsimp only at h
      split at h
      · cases h
      · next hother =>
        refine .inr (.inr ⟨Bool.not_eq_true _ ▸ hother, ⟨text, rfl⟩, ?_⟩)
        split at h <;> cases h <;> rfl

/-- The draft (`Draft`) of a bundle is made of what is made of its text. -/
theorem exists_reading_of_draft {template : Bundle} {reference : String} {d : Draft}
    (h : (draft options template reference notes key bundle).result = .ok d) :
    d.rendition.locale = bundle.locale ∧
      ∃ reading, (messageOf options notes key bundle (bundle.locale.same template.locale)
          d.rendition.translation).result = .ok reading ∧
        d.rendition.message = reading.message ∧ d.failed = reading.failed ∧
        (bundle.locale.same template.locale = true → d.rendition.translation = some reference) := by
  rw [draft] at h
  obtain ⟨translation, htranslation, h⟩ := Logged.bind_result_eq_ok_iff.1 h
  obtain ⟨declared, -, h⟩ := Logged.bind_result_eq_ok_iff.1 h
  obtain ⟨reading, hreading, h⟩ := Logged.bind_result_eq_ok_iff.1 h
  cases h
  refine ⟨rfl, reading, hreading, rfl, rfl, fun hlocale => ?_⟩
  rw [hlocale, if_pos rfl] at htranslation
  cases htranslation
  rfl

/-- The message of a draft was read from some text with the `readingOptions` of the template. -/
theorem parse_of_draft {template : Bundle} {reference : String} {d : Draft}
    (h : (draft options template reference notes key bundle).result = .ok d) {m : Message}
    (hm : d.rendition.message = some m) :
    ∃ text, Message.parse (readingOptions options notes) text = .ok m := by
  obtain ⟨-, reading, hreading, hmessage, -, -⟩ := exists_reading_of_draft h
  rw [hmessage] at hm
  rcases messageOf_cases hreading with ⟨-, rfl⟩ | ⟨text, m', -, hparse, rfl⟩ | ⟨-, -, rfl⟩
  · cases hm
  · cases hm
    exact ⟨text, hparse⟩
  · cases hm

/-- A draft (`Draft`) is in the locale of its bundle. -/
theorem locale_of_draft {template : Bundle} {reference : String} {d : Draft}
    (h : (draft options template reference notes key bundle).result = .ok d) :
    d.rendition.locale = bundle.locale := (exists_reading_of_draft h).1

/-- A draft (`Draft`) in the locale of the template has a message. -/
theorem exists_message_of_draft {template : Bundle} {reference : String} {d : Draft}
    (hlocale : bundle.locale.same template.locale = true)
    (h : (draft options template reference notes key bundle).result = .ok d) :
    ∃ m, d.rendition.message = some m := by
  obtain ⟨-, reading, hreading, hmessage, -, htext⟩ := exists_reading_of_draft h
  rw [hmessage]
  rcases messageOf_cases hreading with ⟨hnone, -⟩ | ⟨_, m, -, -, rfl⟩ | ⟨hother, -, -⟩
  · cases hnone.symm.trans (htext hlocale)
  · exact ⟨m, rfl⟩
  · cases hlocale.symm.trans hother

/-- The text of a draft (`Draft`) was refused if and only if there is one and no message, and this
is not so in the locale of the template. -/
theorem failed_iff_of_draft {template : Bundle} {reference : String} {d : Draft}
    (h : (draft options template reference notes key bundle).result = .ok d) :
    d.failed = true ↔ d.rendition.locale.same template.locale = false ∧
      d.rendition.translation.isSome = true ∧ d.rendition.message = none := by
  obtain ⟨hlocale, reading, hreading, hmessage, hfailed, -⟩ := exists_reading_of_draft h
  rw [hlocale, hmessage, hfailed]
  rcases messageOf_cases hreading with
    ⟨hnone, rfl⟩ | ⟨text, m, -, -, rfl⟩ | ⟨hother, ⟨text, htext⟩, rfl⟩
  · simp [hnone]
  · simp
  · simp [hother, htext]

end

/-! ## Entries of drafts -/

/-- The placeholders of an entry are those inferred from the messages of its drafts (`ofDrafts`),
and its renditions have just these messages. -/
theorem exists_inferred_of_ofDrafts {key reference : String} {notes : Notes} {drafts : List Draft}
    {e : Entry} (h : ofDrafts key reference notes drafts = .ok e) :
    (∃ (redeclared : List (Locale × List Declared)) (inferred : Inferred Locale),
      inferPlaceholders key notes.declared redeclared
        (drafts.filterMap fun d => d.rendition.message) = .ok inferred ∧
      e.placeholders = inferred.template) ∧
    ∀ r ∈ e.renditions, ∃ d ∈ drafts, r.message = d.rendition.message := by
  obtain ⟨inferred, hinferred, rfl⟩ := map_eq_ok_iff.1 h
  refine ⟨⟨_, inferred, hinferred, rfl⟩, fun r hr => ?_⟩
  obtain ⟨d, hd, rfl⟩ := List.mem_map.1 hr
  exact ⟨d, hd, rfl⟩

/-- An entry that is built is coherent (`Coherent`). -/
theorem coherent_of_build {options : EntryOptions} {template : Bundle} {collection : Collection}
    {key : String} {e : Entry} (h : (build options template collection key).result = .ok e) :
    e.Coherent := by
  obtain ⟨reference, -, h⟩ := Logged.bind_result_eq_ok_iff.1 h
  obtain ⟨notes, -, h⟩ := Logged.bind_result_eq_ok_iff.1 h
  obtain ⟨drafts, hdrafts, h⟩ := Logged.bind_result_eq_ok_iff.1 h
  obtain ⟨⟨redeclared, inferred, hinferred, hplaceholders⟩, hrenditions⟩ :=
    exists_inferred_of_ofDrafts (mapError_eq_ok_iff.1 h)
  constructor
  · -- Each message comes from the draft of some bundle, and a draft has only what `parse` gives.
    intro r hr m hm
    obtain ⟨d, hd, hmessage⟩ := hrenditions r hr
    obtain ⟨bundle, -, hdraft⟩ :=
      exists_mem_of_forall₂ (Logged.traverse_result_eq_ok_iff.1 hdrafts) hd
    obtain ⟨text, hparse⟩ := parse_of_draft hdraft (hmessage.symm.trans hm)
    exact ⟨_, text, rfl, hparse⟩
  · intro r hr m hm name use huse
    obtain ⟨d, hd, hmessage⟩ := hrenditions r hr
    -- Every name in use is a placeholder, as inference reads the messages of all drafts.
    have hmem : m ∈ drafts.filterMap fun d => d.rendition.message :=
      List.mem_filterMap.2 ⟨d, hd, hmessage.symm.trans hm⟩
    rw [hplaceholders]
    exact mem_template_of_occurs hinferred ⟨m, hmem, huse⟩

/-! ## Messages and placeholders in a locale -/

/-- The message (`messageFor?`) in a locale is that of a rendition. -/
theorem exists_rendition_of_messageFor? {e : Entry} {locale : Locale} {m : Message}
    (h : e.messageFor? locale = some m) : ∃ r ∈ e.renditions, r.message = some m := by
  obtain ⟨r, hr, hm⟩ := Option.bind_eq_some_iff.1 h
  exact ⟨r, List.mem_of_find?_eq_some hr, hm⟩

/-- What a placeholder is overridden by (`Inferred.overrideOf`) has its name. -/
theorem name_override (overrides : List Resolved) (p : Resolved) :
    ((overrides.find? (·.name == p.name)).getD p).name = p.name := by
  cases hfind : overrides.find? (·.name == p.name) with
  | none => rfl
  | some q => simpa using List.find?_some hfind

/-- A locale formats the placeholders (`placeholdersFor`) of the entry, whether it overrides them or
not. -/
theorem map_name_placeholdersFor (e : Entry) (locale : Locale) :
    (e.placeholdersFor locale).map (·.name) = e.placeholders.map (·.name) := by
  rw [placeholdersFor, List.map_map]
  exact List.map_congr_left fun p _ => name_override _ p

end Parlance.Entry
