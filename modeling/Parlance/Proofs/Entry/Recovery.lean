import Parlance.Proofs.Code.Agreement
import Parlance.Proofs.Entry.Building

/-!
# A rendition that is no message counts as missing

Outside the template, a text that cannot be read as a message has the same effect as no text at all.
If the text is left out of its bundle, the entry is built or refused in the same way, and it differs
only in that text and in whether it had errors (`alike_build_without`). So the module and the report
stay the same (`unreadable_eq_missing`). An entry has had errors if and only if some locale but the
template's has a text and no message (`hadErrors_iff`).
-/

namespace Parlance

open Code

/-! ## Bundles without a text -/

/-- A bundle without the value of a key; the metadata of the key stays. -/
def Bundle.without (b : Bundle) (key : String) : Bundle :=
  { b with resources := b.resources.filter (·.1 != key) }

namespace Bundle

/-- `Bundle.without` leaves nothing under the key. -/
private theorem field?_without_self (b : Bundle) (key : String) :
    Value.field? (b.without key).resources key = none := by
  have hfind : (b.without key).resources.find? (·.1 == key) = none := by
    simp [without, List.find?_eq_none]
  rw [Value.field?, Assoc.get?, hfind]
  rfl

/-- `Bundle.without` leaves what is under other names. -/
private theorem field?_without_of_ne (b : Bundle) {key name : String} (h : name ≠ key) :
    Value.field? (b.without key).resources name = Value.field? b.resources name := by
  have hget : Assoc.get? (b.without key).resources name = Assoc.get? b.resources name := by
    rw [Assoc.get?, Assoc.get?, without, List.find?_filter]
    congr 2
    funext e
    by_cases he : e.1 = name
    · simp [he, h]
    · simp [he]
  rw [Value.field?, Value.field?, hget]

/-- The metadata of a key does not stand under the key. -/
private theorem metadataKey_ne (key : String) : "@" ++ key ≠ key := by
  intro h
  have hlength := congrArg String.length h
  rw [String.length_append] at hlength
  simp at hlength

/-- A bundle without (`without`) the key has no text for it. -/
private theorem translation_without_self (b : Bundle) (key : String) :
    (b.without key).translation key = .ok none := by
  rw [translation, field?_without_self]

/-- A bundle without (`without`) the key has the texts of other keys. -/
private theorem translation_without_of_ne (b : Bundle) {key name : String} (h : name ≠ key) :
    (b.without key).translation name = b.translation name := by
  rw [translation, translation, field?_without_of_ne b h]
  rfl

/-- A bundle without (`without`) the key has all metadata that does not stand under it. -/
private theorem metadata_without (b : Bundle) {key name : String} (h : "@" ++ name ≠ key) :
    (b.without key).metadata name = b.metadata name := by
  rw [metadata, metadata, metadataIn, metadataIn, field?_without_of_ne b h]
  rfl

end Bundle

namespace Entry

/-! ## Drafts -/

/-- Whether a draft of a locale has no message, and another draft is the same without the text. -/
def Draft.Forgets (locale : Locale) (d d' : Draft) : Prop :=
  d.rendition.locale = locale ∧ d.rendition.message = none ∧
    d' = { d with rendition := { d.rendition with translation := none }, failed := false }

/-- Whether a text is refused as a message of a key, whenever the template has notes on the key. -/
def IsUnreadable (options : EntryOptions) (template : Bundle) (key text : String) : Prop :=
  ∀ notes, notesOf template key options.requireAttributes = .ok notes →
    ∃ f, Message.parse (readingOptions options notes) text = .error (.fault f)

section

variable {options : EntryOptions} {template bundle : Bundle} {reference key : String}
  {notes : Notes}

/-- A text that is refused leaves a rendition without a message (`messageOf`), outside the template.
-/
private theorem messageOf_refused {text : String} {f : MessageFault}
    (h : Message.parse (readingOptions options notes) text = .error (.fault f)) :
    (messageOf options notes key bundle false (some text)).result = .ok ⟨none, true⟩ := by
  rw [messageOf, h]
  dsimp only
  rw [if_neg (by decide)]
  split <;> rfl

/-- A draft from a bundle whose text is refused is alike (`Alike`) to one from the bundle without
it. -/
theorem alike_draft_without {text : String} {f : MessageFault}
    (hlocale : bundle.locale.same template.locale = false)
    (htext : bundle.translation key = .ok (some text))
    (hparse : Message.parse (readingOptions options notes) text = .error (.fault f)) :
    Alike (Draft.Forgets bundle.locale) (draft options template reference notes key bundle).result
      (draft options template reference notes key (bundle.without key)).result := by
  have hlocale' : (bundle.without key).locale.same template.locale = false := hlocale
  have hdeclared : redeclared (bundle.without key) key = redeclared bundle key := by
    rw [redeclared, redeclared, bundle.metadata_without (Bundle.metadataKey_ne key)]
    rfl
  unfold draft
  simp only [hlocale, hlocale', Bool.false_eq_true, if_false, htext,
    bundle.translation_without_self, hdeclared]
  have htexts : Alike (fun a b : Option String => a = some text ∧ b = none)
      (Except.mapError Failure.fault (.ok (some text)))
      (Except.mapError Failure.fault (.ok none)) :=
    .ok ⟨rfl, rfl⟩
  refine Logged.alike_bind htexts ?_
  rintro _ _ ⟨rfl, rfl⟩
  refine Logged.alike_bind (.refl _) fun declared _ heq => ?_
  subst heq
  -- neither the text that is refused nor the one that is missing gives a message
  have hmessages : Alike (fun a b : Reading => a = ⟨none, true⟩ ∧ b = ⟨none, false⟩)
      (messageOf options notes key bundle false (some text)).result
      (messageOf options notes key (bundle.without key) false none).result := by
    rw [messageOf_refused hparse]
    exact .ok ⟨rfl, rfl⟩
  refine Logged.alike_bind hmessages ?_
  rintro _ _ ⟨rfl, rfl⟩
  exact .ok ⟨rfl, rfl, rfl⟩

/-- A key whose value and metadata are left alone has the same draft (`draft`). -/
theorem draft_without_of_ne {name : String} (hname : name ≠ key) (hmetadata : "@" ++ name ≠ key) :
    draft options template reference notes name (bundle.without key) =
      draft options template reference notes name bundle := by
  have hdeclared : redeclared (bundle.without key) name = redeclared bundle name := by
    rw [redeclared, redeclared, bundle.metadata_without hmetadata]
    rfl
  unfold draft messageOf
  rw [bundle.translation_without_of_ne hname, hdeclared]
  rfl

end

/-! ## Entries -/

/-- Whether an entry has a text in a locale that is no message, and another entry is the same
without it but for whether it had errors. -/
structure Forgets (locale : Locale) (e e' : Entry) : Prop where
  renditions : ∃ before r after, r.locale = locale ∧ r.message = none ∧
    e.renditions = before ++ r :: after ∧
    e'.renditions = before ++ { r with translation := none } :: after
  rest : e' = { e with renditions := e'.renditions, hadErrors := e'.hadErrors }

/-- A search in two lists that differ in one item, on which the predicate agrees, finds the same or
just these items. -/
private theorem find?_split {α : Type} {p : α → Bool} (before after : List α) {a b : α}
    (h : p a = p b) : (before ++ a :: after).find? p = (before ++ b :: after).find? p ∨
      (before ++ a :: after).find? p = some a ∧ (before ++ b :: after).find? p = some b := by
  simp only [List.find?_append, List.find?_cons, ← h]
  cases before.find? p with
  | some c => exact .inl rfl
  | none =>
    cases p a with
    | true => exact .inr ⟨rfl, rfl⟩
    | false => exact .inl rfl

/-- The module and the report do not read texts (`Agree`). -/
theorem Forgets.agree {locale : Locale} {e e' : Entry} (h : Forgets locale e e') : e.Agree e' := by
  obtain ⟨⟨before, r, after, -, -, hrenditions, hrenditions'⟩, hrest⟩ := h
  -- a search by locale meets the same rendition, with its text or without
  have hfind := fun l : Locale =>
    find?_split (p := fun r' => r'.locale.same l) before after (a := r)
      (b := { r with translation := none }) rfl
  simp only [← hrenditions, ← hrenditions'] at hfind
  rw [hrest]
  refine ⟨rfl, rfl, rfl, rfl, rfl, fun l => ?_, fun l => ?_⟩
  · unfold messageFor? renditionFor?
    rcases hfind l with heq | ⟨heq, heq'⟩
    · rw [heq]
    · rw [heq, heq']
      rfl
  · unfold placeholdersFor renditionFor?
    rcases hfind l with heq | ⟨heq, heq'⟩
    · rw [heq]
    · rw [heq, heq']

/-- The entries of drafts (`ofDrafts`) that differ in a text without a message differ in nothing
else. -/
theorem alike_ofDrafts {locale : Locale} {key reference : String} {notes : Notes}
    {before after : List Draft} {d d' : Draft} (h : d.Forgets locale d') :
    Alike (Forgets locale) (ofDrafts key reference notes (before ++ d :: after))
      (ofDrafts key reference notes (before ++ d' :: after)) := by
  obtain ⟨⟨_, filename, translation, _, overrides⟩, declared, failed⟩ := d
  obtain ⟨rfl, rfl, rfl⟩ := h
  dsimp only [ofDrafts]
  -- inference sees the same declarations and the same messages
  simp only [List.filterMap_append, List.filterMap_cons]
  refine (Alike.refl _).map fun inferred _ heq => ?_
  subst heq
  exact ⟨⟨_, _, _, rfl, rfl, List.map_append, List.map_append⟩, rfl⟩

section

variable {options : EntryOptions} {template bundle : Bundle} {directory key text : String}
  {before after : List Bundle}

/-- An entry is built or refused in the same way (`Alike`) whether an unreadable text is there or
not. -/
theorem alike_build_without (hlocale : bundle.locale.same template.locale = false)
    (htext : bundle.translation key = .ok (some text))
    (hunreadable : IsUnreadable options template key text) :
    Alike (Forgets bundle.locale)
      (build options template ⟨directory, before ++ bundle :: after⟩ key).result
      (build options template ⟨directory, before ++ bundle.without key :: after⟩ key).result := by
  unfold build
  refine Logged.alike_bind (.refl _) fun reference _ heq => ?_
  subst heq
  cases hnotes : notesOf template key options.requireAttributes with
  | error e => exact .error _
  | ok notes =>
    -- from here on the options are known that the text is refused with
    obtain ⟨f, hparse⟩ := hunreadable notes hnotes
    have hsame : Alike (fun a b => a = notes ∧ b = notes)
        (Except.mapError Failure.fault (.ok notes)) (Except.mapError Failure.fault (.ok notes)) :=
      .ok ⟨rfl, rfl⟩
    refine Logged.alike_bind hsame ?_
    rintro _ _ ⟨rfl, rfl⟩
    have hdraft := @alike_draft_without _ _ _ reference _ _ _ _ hlocale htext hparse
    refine Logged.alike_bind (Logged.alike_traverse_append hdraft before after) ?_
    rintro _ _ ⟨drafts, d, d', drafts', rfl, rfl, hforgets⟩
    exact (alike_ofDrafts hforgets).mapError _

/-- The entry of a key whose value and metadata are left alone stays the same (`build`). -/
theorem build_without_of_ne {name : String} (hname : name ≠ key) (hmetadata : "@" ++ name ≠ key) :
    (build options template ⟨directory, before ++ bundle :: after⟩ name).result =
      (build options template ⟨directory, before ++ bundle.without key :: after⟩ name).result := by
  refine Alike.eq ?_
  unfold build
  refine Logged.alike_bind (.refl _) fun reference _ heq => ?_
  subst heq
  refine Logged.alike_bind (.refl _) fun notes _ heq => ?_
  subst heq
  -- The drafts of this key are the same, so all that is made of them is.
  have hdraft : Alike Eq (draft options template reference notes name bundle).result
      (draft options template reference notes name (bundle.without key)).result := by
    rw [draft_without_of_ne hname hmetadata]
    exact .refl _
  refine Logged.alike_bind (Logged.alike_traverse_append hdraft before after) ?_
  rintro _ _ ⟨drafts, d, _, drafts', rfl, rfl, rfl⟩
  exact .refl _

end

/-! ## Errors that an entry had -/

/-- An entry has had errors (`hadErrors`) if and only if some locale but the template's has a text
and no message. -/
theorem hadErrors_iff {options : EntryOptions} {template : Bundle} {collection : Collection}
    {key : String} {e : Entry} (h : (build options template collection key).result = .ok e) :
    e.hadErrors = true ↔ ∃ r ∈ e.renditions, r.locale.same template.locale = false ∧
      r.translation.isSome = true ∧ r.message = none := by
  obtain ⟨reference, -, h⟩ := Logged.bind_result_eq_ok_iff.1 h
  obtain ⟨notes, -, h⟩ := Logged.bind_result_eq_ok_iff.1 h
  obtain ⟨drafts, hdrafts, h⟩ := Logged.bind_result_eq_ok_iff.1 h
  obtain ⟨inferred, -, rfl⟩ := map_eq_ok_iff.1 (mapError_eq_ok_iff.1 h)
  -- The flag of a draft is set where its text is refused, and nowhere else.
  have hfailed : ∀ d ∈ drafts, (d.failed = true ↔ d.rendition.locale.same template.locale = false ∧
      d.rendition.translation.isSome = true ∧ d.rendition.message = none) := by
    intro d hd
    obtain ⟨bundle, -, hdraft⟩ :=
      exists_mem_of_forall₂ (Logged.traverse_result_eq_ok_iff.1 hdrafts) hd
    exact failed_iff_of_draft hdraft
  simp only [List.any_eq_true, List.mem_map, exists_exists_and_eq_and]
  exact exists_congr fun d => and_congr_right (hfailed d)

/-! ## The module and the report -/

/-- Outside the template, a text that cannot be read (`IsUnreadable`) counts as missing. -/
theorem unreadable_eq_missing (options : EntryOptions) (template : Bundle) :
    (∀ (directory key text : String) (bundle : Bundle) (before after : List Bundle),
      bundle.locale.same template.locale = false →
      bundle.translation key = .ok (some text) →
      IsUnreadable options template key text →
      Alike (Forgets bundle.locale)
          (build options template ⟨directory, before ++ bundle :: after⟩ key).result
          (build options template ⟨directory, before ++ bundle.without key :: after⟩ key).result ∧
        ∀ keys : List String, (∀ name ∈ keys, "@" ++ name ≠ key) →
          Alike (fun entries entries' => ∀ locales templateLocale moduleOptions,
              ((Plan.make entries locales templateLocale moduleOptions).mapError .fault).bind emit =
                ((Plan.make entries' locales templateLocale moduleOptions).mapError .fault).bind
                  emit ∧
              Session.untranslatedIn entries templateLocale locales =
                Session.untranslatedIn entries' templateLocale locales)
            (Logged.traverse (build options template ⟨directory, before ++ bundle :: after⟩)
              keys).result
            (Logged.traverse
              (build options template ⟨directory, before ++ bundle.without key :: after⟩)
              keys).result) ∧
    ∀ (collection : Collection) (key : String) (e : Entry),
      (build options template collection key).result = .ok e →
      (e.hadErrors = true ↔ ∃ r ∈ e.renditions, r.locale.same template.locale = false ∧
        r.translation.isSome = true ∧ r.message = none) := by
  refine ⟨fun directory key text bundle before after hlocale htext hunreadable => ?_,
    fun _ _ _ => hadErrors_iff⟩
  refine ⟨alike_build_without hlocale htext hunreadable, fun keys hkeys => ?_⟩
  have hentries : Alike (List.Forall₂ Agree)
      (Logged.traverse (build options template ⟨directory, before ++ bundle :: after⟩) keys).result
      (Logged.traverse
        (build options template ⟨directory, before ++ bundle.without key :: after⟩)
          keys).result := by
    refine Logged.alike_traverse (List.forall₂_same.2 fun name hname => ?_)
    -- only the entry of the key itself can differ
    by_cases hkey : name = key
    · subst hkey
      exact (alike_build_without hlocale htext hunreadable).mono fun _ _ => Forgets.agree
    · rw [build_without_of_ne hkey (hkeys name hname)]
      exact (Alike.refl _).mono fun e _ heq => heq ▸ .refl e
  exact hentries.mono fun entries entries' hagree locales templateLocale moduleOptions =>
    ⟨module_of_agree hagree locales templateLocale moduleOptions,
      untranslatedIn_of_agree hagree templateLocale locales⟩

/-- A template with one message. -/
def englishGuests : Bundle :=
  ⟨"l10n/app_en.arb", ⟨"en", none, none, "en"⟩, [("guests", .text "\x7bn\x7d guests")]⟩

/-- A bundle in which a brace of the message is missing, with a type and a format for the count. -/
def germanGuests : Bundle :=
  ⟨"l10n/app_de.arb", ⟨"de", none, none, "de"⟩,
    [("guests", .text "\x7bn"),
     ("@guests", .object [("placeholders", .object
       [("n", .object [("type", .text "num"), ("format", .text "decimalPattern")])])])]⟩

/-- The entry had an error, and it is the same without the text (`without`) but for that. -/
theorem unreadable_eq_missing_guests :
    germanGuests.locale.same englishGuests.locale = false ∧
    germanGuests.translation "guests" = .ok (some "\x7bn") ∧
    IsUnreadable .standard englishGuests "guests" "\x7bn" ∧
    ∃ e e', (build .standard englishGuests ⟨"l10n", [germanGuests, englishGuests]⟩
        "guests").result = .ok e ∧
      (build .standard englishGuests ⟨"l10n", [germanGuests.without "guests", englishGuests]⟩
        "guests").result = .ok e' ∧
      Forgets germanGuests.locale e e' ∧ e.hadErrors = true ∧ e'.hadErrors = false := by
  -- the template has no notes on the key, so nothing else is to be read
  have hunreadable : IsUnreadable .standard englishGuests "guests" "\x7bn" := by
    intro notes hnotes
    have hnone : notesOf englishGuests "guests" false = .ok ⟨none, none, []⟩ := rfl
    cases hnone.symm.trans hnotes
    exact ⟨_, rfl⟩
  have hwith : (build .standard englishGuests ⟨"l10n", [germanGuests, englishGuests]⟩
      "guests").result.map (·.hadErrors) = .ok true := by
    decide +kernel
  have hwithout : (build .standard englishGuests
      ⟨"l10n", [germanGuests.without "guests", englishGuests]⟩ "guests").result.map
        (·.hadErrors) = .ok false := by
    decide +kernel
  obtain ⟨e, he, herrors⟩ := map_eq_ok_iff.1 hwith
  obtain ⟨e', he', herrors'⟩ := map_eq_ok_iff.1 hwithout
  obtain ⟨halike, -⟩ := (unreadable_eq_missing .standard englishGuests).1 "l10n" "guests" "\x7bn"
    germanGuests [] [englishGuests] rfl rfl hunreadable
  rw [List.nil_append, List.nil_append, he, he'] at halike
  cases halike with
  | ok h => exact ⟨rfl, rfl, hunreadable, e, e', he, he', h, herrors, herrors'⟩

end Entry

end Parlance
