import Parlance.Bundle
import Parlance.Json.Reader
import Parlance.Proofs.Results

/-!
# When a bundle is refused

What is JSON is up to the decoder, and all that is said here is said for every one. The text of a
bundle file decodes to resources, or is refused as no object (`decode_cases`), and the resources are
refused for the first of four causes that applies (`Unsound`, `ofResources_cases`). So a file gives
a bundle just where it can be read and none of the causes applies, and otherwise is refused for the
first of them (`Refused`). Two things escape (`Escapes`): bytes that are no text, and a text that
the decoder gives up, at a number with too many digits or at values nested too deeply.
-/

namespace Parlance.Bundle

open Parlance.Text

/-! ## Texts -/

section

variable (decoder : JsonDecoder)

/-- Whether a text holds resources: none if it is white space, and otherwise the entries of its
object. -/
def Decodes (content : String) (resources : Assoc Value) : Prop :=
  (isBlankText content = true ∧ resources = []) ∨
    (isBlankText content = false ∧ decoder content = .ok (.object resources))

/-- Whether a text is refused, with some detail: it is not of the format, or no object. -/
inductive Malformed (content : String) : String → Prop
  | text {detail} (hblank : isBlankText content = false)
      (h : decoder content = .error (.malformed detail)) :
    Malformed content detail
  | value {v : Value} (hblank : isBlankText content = false) (h : decoder content = .ok v)
      (hobject : v.object? = none) :
    Malformed content s!"top-level value is a {v.kindName}, not an object"

/-- Whether the decoder gives a text up: at an integer with too many digits, or at values that are
nested too deeply. -/
def GivesUp (content : String) : Prop :=
  isBlankText content = false ∧
    ((∃ digits, decoder content = .error (.oversizedNumber digits)) ∨
      decoder content = .error .tooDeep)

end

/-! ## Resources -/

/-- Whether resources declare no locale. -/
def DeclaresNone (resources : Assoc Value) : Prop :=
  Assoc.get? resources localeKey = none ∨ Assoc.get? resources localeKey = some .null

/-- Whether resources declare a locale by a tag, with underscores. -/
def Declares (resources : Assoc Value) (tag : String) : Prop :=
  ∃ raw, Assoc.get? resources localeKey = some (.text raw) ∧ tag = Locale.normalize raw

/-- Whether resources declare something else than text as their locale. -/
def DeclaresNoText (resources : Assoc Value) : Prop :=
  ∃ v, Assoc.get? resources localeKey = some v ∧ v ≠ .null ∧ v.text? = none

/-- Whether resources declare another locale than the file name. -/
def Mismatch (path : String) (resources : Assoc Value) (tag : String) (locale : Locale) : Prop :=
  Declares resources tag ∧ Locale.ofFilename? (Path.nameOf path) = some locale ∧ tag ≠ locale.tag

/-- Whether neither resources nor the file name give a locale, or what is declared is the tag of
none. -/
def NoLocale (path : String) (resources : Assoc Value) : Prop :=
  (DeclaresNone resources ∧ Locale.ofFilename? (Path.nameOf path) = none) ∨
    ∃ tag, Declares resources tag ∧ ∀ locale, Locale.parse tag ≠ .ok locale

/-- Whether the metadata of a key is no object. -/
def BadMetadata (resources : Assoc Value) (key : String) : Prop :=
  ∃ v, Assoc.get? resources ("@" ++ key) = some v ∧ v ≠ .null ∧ v.object? = none

/-- Whether resources make a bundle. -/
structure Sound (path : String) (resources : Assoc Value) : Prop where
  text : ¬ DeclaresNoText resources
  agrees : ∀ tag locale, ¬ Mismatch path resources tag locale
  locale : ¬ NoLocale path resources
  metadata : ∀ key ∈ keysOf resources, ¬ BadMetadata resources key

/-- For which cause resources are refused: the first one that applies. -/
inductive Unsound (path : String) (resources : Assoc Value) : Fault → Prop
  | localeNotText (h : DeclaresNoText resources) : Unsound path resources (.localeNotText path)
  | localeMismatch {tag locale} (htext : ¬ DeclaresNoText resources)
      (h : Mismatch path resources tag locale) :
    Unsound path resources (.localeMismatch path tag locale.tag)
  | localeUndetermined (htext : ¬ DeclaresNoText resources)
      (hagrees : ∀ tag locale, ¬ Mismatch path resources tag locale) (h : NoLocale path resources) :
    Unsound path resources (.localeUndetermined path)
  | malformedMetadata {before key after} (htext : ¬ DeclaresNoText resources)
      (hagrees : ∀ tag locale, ¬ Mismatch path resources tag locale)
      (hlocale : ¬ NoLocale path resources) (hkeys : keysOf resources = before ++ key :: after)
      (hbefore : ∀ k ∈ before, ¬ BadMetadata resources k) (h : BadMetadata resources key) :
    Unsound path resources (.malformedMetadata path key "")

/-! ## Files -/

section

variable (decoder : JsonDecoder) (fs : FileSystem) (path : String)

/-- Whether a file can be read and holds resources. -/
def Reads (resources : Assoc Value) : Prop :=
  ∃ content, fs.readText path = .ok content ∧ Decodes decoder content resources

/-- For which cause a file is refused: the first one that applies. -/
inductive Refused : Fault → Prop
  | unreadable {f} (h : fs.readText path = .error f) :
    Refused (.bundleUnreadable path (f.detail (fs.shownPath path)))
  | malformed {content detail} (hread : fs.readText path = .ok content)
      (h : Malformed decoder content detail) : Refused (.malformedBundle path detail)
  | unsound {resources f} (hread : Reads decoder fs path resources) (h : Unsound path resources f) :
    Refused f

/-- Whether the failure of a file is none that the program has words for: its bytes are no text, or
the decoder gives the text up. -/
def Escapes : Prop :=
  fs.readText path = .error .undecodable ∨
    ∃ content, fs.readText path = .ok content ∧ GivesUp decoder content

end

section

variable {decoder : JsonDecoder} {fs : FileSystem} {path content tag : String}
  {resources : Assoc Value} {v : Value}

/-- A field counts as absent if it is missing or `null`. -/
private theorem field?_eq_none_iff {name : String} :
    Value.field? resources name = none ↔
      Assoc.get? resources name = none ∨ Assoc.get? resources name = some .null := by
  rw [Value.field?]
  cases Assoc.get? resources name with
  | none => simp
  | some v => cases v <;> simp

/-- A field is there if its value is not `null`. -/
theorem field?_eq_some_iff {name : String} :
    Value.field? resources name = some v ↔ Assoc.get? resources name = some v ∧ v ≠ .null := by
  rw [Value.field?]
  cases Assoc.get? resources name with
  | none => simp
  | some w => cases w <;> cases v <;> simp

/-- The resources that a text holds are what it decodes (`Decodes`) to. -/
theorem Decodes.decode_eq (h : Decodes decoder content resources) :
    decode decoder path content = .ok resources := by
  rcases h with ⟨hblank, rfl⟩ | ⟨hblank, hread⟩
  · rw [decode, if_pos hblank]
  · simp [decode, hblank, hread]

/-- A text holds resources, is refused with its detail, or is given up (`GivesUp`). -/
theorem decode_cases (decoder : JsonDecoder) (path content : String) :
    (∃ resources, Decodes decoder content resources ∧
      decode decoder path content = .ok resources) ∨
      (¬ GivesUp decoder content ∧ ∃ detail, Malformed decoder content detail ∧
        decode decoder path content = .error (.fault (.malformedBundle path detail))) ∨
      (GivesUp decoder content ∧
        ∃ e, decode decoder path content = .error e ∧ ∀ f, e ≠ .fault f) := by
  rw [decode]
  cases hblank : isBlankText content with
  -- white space holds nothing, and the decoder is not asked
  | true => exact .inl ⟨[], .inl ⟨hblank, rfl⟩, rfl⟩
  | false =>
    simp only [Bool.false_eq_true, if_false]
    cases hread : decoder content with
    | ok v =>
      have hreads : ¬ GivesUp decoder content := by simp [GivesUp, hread]
      cases v with
      -- every other value is refused by its kind
      | object entries => exact .inl ⟨entries, .inr ⟨hblank, hread⟩, rfl⟩
      | _ => exact .inr (.inl ⟨hreads, _, .value hblank hread rfl, rfl⟩)
    | error e =>
      cases e with
      | malformed detail =>
        exact .inr (.inl ⟨by simp [GivesUp, hread], detail, .text hblank hread, rfl⟩)
      | oversizedNumber digits =>
        exact .inr (.inr ⟨⟨hblank, .inl ⟨digits, hread⟩⟩, .oversizedNumber digits, rfl, by simp⟩)
      | tooDeep => exact .inr (.inr ⟨⟨hblank, .inr hread⟩, .tooDeep, rfl, by simp⟩)

/-- Resources declare something that is no text, declare nothing, or declare a `tag`. -/
private theorem declaredLocale_cases (path : String) (resources : Assoc Value) :
    (DeclaresNoText resources ∧ declaredLocale path resources = .error (.localeNotText path)) ∨
      (DeclaresNone resources ∧ declaredLocale path resources = .ok none) ∨
      ∃ tag, Declares resources tag ∧ declaredLocale path resources = .ok (some tag) := by
  rw [declaredLocale]
  cases hfield : Value.field? resources localeKey with
  | none => exact .inr (.inl ⟨field?_eq_none_iff.1 hfield, rfl⟩)
  | some v =>
    obtain ⟨hget, hnull⟩ := field?_eq_some_iff.1 hfield
    cases v with
    | text raw => exact .inr (.inr ⟨_, ⟨raw, hget, rfl⟩, rfl⟩)
    | null => exact absurd rfl hnull
    | _ => exact .inl ⟨⟨_, hget, hnull, rfl⟩, rfl⟩

/-- Resources declare at most one `tag`. -/
theorem Declares.unique {tag' : String} (h : Declares resources tag)
    (h' : Declares resources tag') : tag' = tag := by
  obtain ⟨raw, hraw, rfl⟩ := h
  obtain ⟨raw', hraw', rfl⟩ := h'
  cases hraw.symm.trans hraw'
  rfl

/-- A declared `tag` is text. -/
private theorem Declares.not_noText (h : Declares resources tag) : ¬ DeclaresNoText resources := by
  obtain ⟨raw, hraw, -⟩ := h
  rintro ⟨v, hv, -, hnone⟩
  cases hraw.symm.trans hv
  cases hnone

/-- Resources that declare a `tag` do not declare nothing. -/
private theorem Declares.not_none (h : Declares resources tag) : ¬ DeclaresNone resources := by
  obtain ⟨raw, hraw, -⟩ := h
  rintro (hnone | hnull)
  · cases hraw.symm.trans hnone
  · cases hraw.symm.trans hnull

/-- Resources that declare nothing do not declare something that is no text. -/
private theorem DeclaresNone.not_noText (h : DeclaresNone resources) : ¬ DeclaresNoText resources :=
    by
  rintro ⟨v, hv, hnull, -⟩
  rcases h with h | h
  · cases h.symm.trans hv
  · cases h.symm.trans hv
    exact hnull rfl

/-! ## The locale -/

/-- Whether the locale of a bundle is the one that its resources declare, or else that of its file
name. -/
def LocaleIs (path : String) (resources : Assoc Value) (locale : Locale) : Prop :=
  (∃ tag, Declares resources tag ∧ Locale.parse tag = .ok locale) ∨
    (DeclaresNone resources ∧ Locale.ofFilename? (Path.nameOf path) = some locale)

/-- Resources that have a `locale` are not without one. -/
private theorem LocaleIs.not_noLocale {locale : Locale} (h : LocaleIs path resources locale) :
    ¬ NoLocale path resources := by
  rintro (⟨hnone, hname⟩ | ⟨tag, htag, hparse⟩)
  · rcases h with ⟨tag, htag, -⟩ | ⟨-, hlocale⟩
    · exact htag.not_none hnone
    · cases hname.symm.trans hlocale
  · rcases h with ⟨tag', htag', hlocale⟩ | ⟨hnone, -⟩
    · exact hparse locale (htag.unique htag' ▸ hlocale)
    · exact htag.not_none hnone

/-- Resources have at most one locale (`LocaleIs`). -/
theorem LocaleIs.unique {locale locale' : Locale} (h : LocaleIs path resources locale)
    (h' : LocaleIs path resources locale') : locale = locale' := by
  rcases h with ⟨tag, htag, hparse⟩ | ⟨hnone, hname⟩
  · rcases h' with ⟨tag', htag', hparse'⟩ | ⟨hnone', -⟩
    · cases htag.unique htag'
      cases hparse.symm.trans hparse'
      rfl
    · exact absurd hnone' htag.not_none
  · rcases h' with ⟨tag', htag', -⟩ | ⟨-, hname'⟩
    · exact absurd hnone htag'.not_none
    · cases hname.symm.trans hname'
      rfl

/-- Without a declared locale (`DeclaresNone`), the one of the file name is taken if there is one.
-/
theorem chooseLocale_none_cases (path : String) (hnone : DeclaresNone resources) :
    (NoLocale path resources ∧
      chooseLocale path none (Locale.ofFilename? (Path.nameOf path)) =
        .error (.localeUndetermined path)) ∨
      ∃ locale, LocaleIs path resources locale ∧
        chooseLocale path none (Locale.ofFilename? (Path.nameOf path)) = .ok locale := by
  cases hname : Locale.ofFilename? (Path.nameOf path) with
  | none => exact .inl ⟨.inl ⟨hnone, hname⟩, rfl⟩
  | some locale => exact .inr ⟨locale, .inr ⟨hnone, hname⟩, rfl⟩

/-- A declared locale must be the one of the file name (`Mismatch`) if there is one, and its tag
that of a locale. -/
theorem chooseLocale_some_cases (path : String) (hdeclared : Declares resources tag) :
    (∃ locale, Mismatch path resources tag locale ∧
      chooseLocale path (some tag) (Locale.ofFilename? (Path.nameOf path)) =
        .error (.localeMismatch path tag locale.tag)) ∨
      ((∀ locale, ¬ Mismatch path resources tag locale) ∧
        chooseLocale path (some tag) (Locale.ofFilename? (Path.nameOf path)) =
          (Locale.parse tag).mapError fun _ => .localeUndetermined path) := by
  cases hname : Locale.ofFilename? (Path.nameOf path) with
  | none =>
    -- nothing to differ from
    refine .inr ⟨?_, rfl⟩
    rintro locale ⟨-, hlocale, -⟩
    cases hname.symm.trans hlocale
  | some locale =>
    by_cases hne : tag = locale.tag
    · refine .inr ⟨?_, by simp [chooseLocale, hne]⟩
      rintro other ⟨-, hother, hdiffers⟩
      cases hname.symm.trans hother
      exact hdiffers hne
    · exact .inl ⟨locale, ⟨hdeclared, hname, hne⟩, by simp [chooseLocale, hne]⟩

/-! ## The metadata -/

/-- The metadata of a `key` is malformed, or is an object if it is there at all. -/
private theorem metadataIn_cases (path : String) (resources : Assoc Value) (key : String) :
    (BadMetadata resources key ∧
      metadataIn path resources key = .error (.malformedMetadata path key "")) ∨
      (¬ BadMetadata resources key ∧ ∃ entries, metadataIn path resources key = .ok entries) := by
  rw [metadataIn]
  cases hfield : Value.field? resources ("@" ++ key) with
  | none =>
    -- absent or `null`: no metadata, which is no fault
    refine .inr ⟨?_, none, rfl⟩
    rintro ⟨v, hv, hnull, -⟩
    rcases field?_eq_none_iff.1 hfield with h | h
    · cases h.symm.trans hv
    · cases h.symm.trans hv
      exact hnull rfl
  | some v =>
    obtain ⟨hget, hnull⟩ := field?_eq_some_iff.1 hfield
    cases v with
    | object entries =>
      refine .inr ⟨?_, some entries, rfl⟩
      rintro ⟨w, hw, -, hnone⟩
      cases hget.symm.trans hw
      cases hnone
    | _ => exact .inl ⟨⟨_, hget, hnull, rfl⟩, rfl⟩

/-- The first failure of metadata, as the loader looks for it. -/
def metadataFault? (path : String) (resources : Assoc Value) (key : String) : Option Fault :=
  match metadataIn path resources key with
  | .error e => some e
  | .ok _ => none

/-- The check of a `key` passes if and only if its metadata is not bad. -/
private theorem metadataFault?_eq_none_iff {key : String} :
    metadataFault? path resources key = none ↔ ¬ BadMetadata resources key := by
  rw [metadataFault?]
  rcases metadataIn_cases path resources key with ⟨hbad, he⟩ | ⟨hgood, entries, hok⟩
  · simp [he, hbad]
  · simp [hok, hgood]

/-- The check of a `key` has one fault to report, that the metadata is malformed. -/
private theorem metadataFault?_eq_some_iff {key : String} {f : Fault} :
    metadataFault? path resources key = some f ↔
      BadMetadata resources key ∧ f = .malformedMetadata path key "" := by
  rw [metadataFault?]
  rcases metadataIn_cases path resources key with ⟨hbad, he⟩ | ⟨hgood, entries, hok⟩
  · simp [he, hbad, eq_comm]
  · simp [hok, hgood]

/-- The metadata of all messages is sound, or that of a first one is refused (`BadMetadata`). -/
private theorem findSome?_metadataFault?_cases (path : String) (resources : Assoc Value) :
    ((∀ key ∈ keysOf resources, ¬ BadMetadata resources key) ∧
      (keysOf resources).findSome? (metadataFault? path resources) = none) ∨
      ∃ before key after, keysOf resources = before ++ key :: after ∧
        (∀ k ∈ before, ¬ BadMetadata resources k) ∧ BadMetadata resources key ∧
        (keysOf resources).findSome? (metadataFault? path resources) =
          some (.malformedMetadata path key "") := by
  cases hfind : (keysOf resources).findSome? (metadataFault? path resources) with
  | none =>
    refine .inl ⟨fun key hkey => ?_, rfl⟩
    exact metadataFault?_eq_none_iff.1 (List.findSome?_eq_none_iff.1 hfind key hkey)
  | some f =>
    obtain ⟨before, key, after, hkeys, hf, hbefore⟩ := List.findSome?_eq_some_iff.1 hfind
    obtain ⟨hbad, rfl⟩ := metadataFault?_eq_some_iff.1 hf
    exact .inr ⟨before, key, after, hkeys,
      fun k hk => metadataFault?_eq_none_iff.1 (hbefore k hk), hbad, rfl⟩

/-! ## Resources that make a bundle -/

/-- With the locale at hand, `ofResources` fails only with the first fault of the metadata. -/
private theorem ofResources_eq_elim {declared : Option String} {locale : Locale}
    (hdeclared : declaredLocale path resources = .ok declared)
    (hchosen : chooseLocale path declared (Locale.ofFilename? (Path.nameOf path)) = .ok locale) :
    ofResources path resources =
      ((keysOf resources).findSome? (metadataFault? path resources)).elim
        (.ok ⟨path, locale, resources⟩) .error := by
  rw [ofResources, hdeclared]
  dsimp only
  rw [hchosen]
  unfold metadataFault?
  cases (keysOf resources).findSome? _ <;> rfl

/-- Once the locale is known, the metadata decides (`ofResources`). -/
private theorem ofResources_of_locale {declared : Option String} {locale : Locale}
    (hdeclared : declaredLocale path resources = .ok declared)
    (hchosen : chooseLocale path declared (Locale.ofFilename? (Path.nameOf path)) = .ok locale)
    (htext : ¬ DeclaresNoText resources)
    (hagrees : ∀ tag locale, ¬ Mismatch path resources tag locale)
    (hlocale : ¬ NoLocale path resources) :
    (Sound path resources ∧ ofResources path resources = .ok ⟨path, locale, resources⟩) ∨
      ∃ f, Unsound path resources f ∧ ofResources path resources = .error f := by
  rw [ofResources_eq_elim hdeclared hchosen]
  rcases findSome?_metadataFault?_cases path resources with
    ⟨hgood, hfind⟩ | ⟨before, key, after, hkeys, hbefore, hbad, hfind⟩
  · rw [hfind]
    exact .inl ⟨⟨htext, hagrees, hlocale, hgood⟩, rfl⟩
  · rw [hfind]
    exact .inr ⟨_, .malformedMetadata htext hagrees hlocale hkeys hbefore hbad, rfl⟩

/-- Resources (`ofResources`) make a bundle with their locale, or are refused for the first cause
that applies. -/
theorem ofResources_cases (path : String) (resources : Assoc Value) :
    (Sound path resources ∧ ∃ locale, LocaleIs path resources locale ∧
      ofResources path resources = .ok ⟨path, locale, resources⟩) ∨
      ∃ f, Unsound path resources f ∧ ofResources path resources = .error f := by
  rcases declaredLocale_cases path resources with
    ⟨hnoText, hdeclared⟩ | ⟨hnone, hdeclared⟩ | ⟨tag, htag, hdeclared⟩
  · exact .inr ⟨_, .localeNotText hnoText, by rw [ofResources, hdeclared]⟩
  · -- without a declared tag none can differ from the file name
    have hagrees : ∀ tag locale, ¬ Mismatch path resources tag locale :=
      fun tag locale h => h.1.not_none hnone
    rcases chooseLocale_none_cases path hnone with
      ⟨hlocale, hchosen⟩ | ⟨locale, hlocale, hchosen⟩
    · refine .inr ⟨_, .localeUndetermined hnone.not_noText hagrees hlocale, ?_⟩
      rw [ofResources, hdeclared]
      dsimp only
      rw [hchosen]
    · have hknown := hlocale.not_noLocale
      rcases ofResources_of_locale hdeclared hchosen hnone.not_noText hagrees hknown with
        ⟨hsound, hok⟩ | herror
      · exact .inl ⟨hsound, locale, hlocale, hok⟩
      · exact .inr herror
  · rcases chooseLocale_some_cases path htag with
      ⟨locale, hmismatch, hchosen⟩ | ⟨hagrees, hchosen⟩
    · refine .inr ⟨_, .localeMismatch htag.not_noText hmismatch, ?_⟩
      rw [ofResources, hdeclared]
      dsimp only
      rw [hchosen]
    · -- the declared tag is the only one that could differ
      have hagrees : ∀ other locale, ¬ Mismatch path resources other locale := by
        intro other locale h
        exact hagrees locale (htag.unique h.1 ▸ h)
      cases hparse : Locale.parse tag with
      | error e =>
        rw [hparse] at hchosen
        have hlocale : NoLocale path resources := .inr ⟨tag, htag, by simp [hparse]⟩
        refine .inr ⟨_, .localeUndetermined htag.not_noText hagrees hlocale, ?_⟩
        rw [ofResources, hdeclared]
        dsimp only
        rw [hchosen]
        rfl
      | ok locale =>
        rw [hparse] at hchosen
        have hlocale : LocaleIs path resources locale := .inl ⟨tag, htag, hparse⟩
        rcases ofResources_of_locale hdeclared hchosen htag.not_noText hagrees
            hlocale.not_noLocale with ⟨hsound, hok⟩ | herror
        · exact .inl ⟨hsound, locale, hlocale, hok⟩
        · exact .inr herror

/-- Resources that make a bundle are refused for no cause (`Unsound`). -/
theorem Unsound.not_sound {f : Fault} (h : Unsound path resources f) : ¬ Sound path resources := by
  intro hsound
  cases h with
  | localeNotText h => exact hsound.text h
  | localeMismatch htext h => exact hsound.agrees _ _ h
  | localeUndetermined htext hagrees h => exact hsound.locale h
  | malformedMetadata htext hagrees hlocale hkeys hbefore h =>
    exact hsound.metadata _ (by rw [hkeys]; simp) h

/-! ## Files -/

/-- A text holds one object (`Decodes`) only. -/
theorem Decodes.unique {resources' : Assoc Value} (h : Decodes decoder content resources)
    (h' : Decodes decoder content resources') : resources' = resources := by
  rcases h with ⟨hblank, rfl⟩ | ⟨hblank, hread⟩
  · rcases h' with ⟨-, rfl⟩ | ⟨hblank', -⟩
    · rfl
    · cases hblank.symm.trans hblank'
  · rcases h' with ⟨hblank', -⟩ | ⟨-, hread'⟩
    · cases hblank.symm.trans hblank'
    · cases hread.symm.trans hread'
      rfl

/-- A file holds one set of `resources` only. -/
theorem Reads.unique {resources' : Assoc Value} (h : Reads decoder fs path resources)
    (h' : Reads decoder fs path resources') : resources' = resources := by
  obtain ⟨content, hcontent, hdecodes⟩ := h
  obtain ⟨content', hcontent', hdecodes'⟩ := h'
  cases hcontent.symm.trans hcontent'
  exact hdecodes.unique hdecodes'

/-- A text that holds resources is not given up (`GivesUp`). -/
theorem Decodes.not_givesUp (h : Decodes decoder content resources) :
    ¬ GivesUp decoder content := by
  rintro ⟨hblank, hgives⟩
  rcases h with ⟨hblank', -⟩ | ⟨-, hread⟩
  · cases hblank.symm.trans hblank'
  · simp [hread] at hgives

/-- A file that holds resources escapes (`Escapes`) in no way. -/
theorem Reads.not_escapes (h : Reads decoder fs path resources) : ¬ Escapes decoder fs path := by
  obtain ⟨content, hcontent, hdecodes⟩ := h
  rintro (hbytes | ⟨other, hother, hgives⟩)
  · cases hcontent.symm.trans hbytes
  · cases hcontent.symm.trans hother
    exact hdecodes.not_givesUp hgives

/-- What is said of a file that holds resources (`Reads`) is said of these. -/
theorem load_of_reads (h : Reads decoder fs path resources) :
    load decoder fs path = (ofResources path resources).mapError .fault := by
  obtain ⟨content, hcontent, hdecodes⟩ := h
  rw [load, hcontent]
  dsimp only
  rw [hdecodes.decode_eq]

/-- A file holds resources, is refused before there are any, or escapes (`Escapes`). -/
theorem reads_or_refused_or_escapes (decoder : JsonDecoder) (fs : FileSystem) (path : String) :
    (∃ resources, Reads decoder fs path resources) ∨
      (¬ Escapes decoder fs path ∧
        ∃ f, Refused decoder fs path f ∧ load decoder fs path = .error (.fault f)) ∨
      (Escapes decoder fs path ∧ ∃ e, load decoder fs path = .error e ∧ ∀ f, e ≠ .fault f) := by
  cases hread : fs.readText path with
  | error e =>
    have hload : load decoder fs path = .error (readFailure fs path e) := by rw [load, hread]
    -- of all reasons why a file cannot be read, only bytes that are no text get through
    by_cases hbytes : e = .undecodable
    · subst hbytes
      exact .inr (.inr ⟨.inl hread, _, hload, nofun⟩)
    · refine .inr (.inl ⟨?_, _, .unreadable hread, ?_⟩)
      · rintro (hundecodable | ⟨content, hcontent, -⟩)
        · cases hread.symm.trans hundecodable
          exact hbytes rfl
        · cases hread.symm.trans hcontent
      · rw [hload]
        cases e with
        | undecodable => exact absurd rfl hbytes
        | _ => rfl
  | ok content =>
    have hload : load decoder fs path =
        (decode decoder path content).bind fun resources =>
          (ofResources path resources).mapError .fault := by
      rw [load, hread]
      dsimp only
      cases decode decoder path content <;> rfl
    rcases decode_cases decoder path content with
      ⟨resources, hdecodes, -⟩ | ⟨hreads, detail, hbad, herror⟩ | ⟨hgives, e, herror, he⟩
    · exact .inl ⟨resources, content, hread, hdecodes⟩
    · refine .inr (.inl ⟨?_, _, .malformed hread hbad, by rw [hload, herror]; rfl⟩)
      rintro (hundecodable | ⟨other, hother, hgives⟩)
      · cases hread.symm.trans hundecodable
      · cases hread.symm.trans hother
        exact hreads hgives
    · exact .inr (.inr ⟨.inr ⟨content, hread, hgives⟩, e, by rw [hload, herror]; rfl, he⟩)

/-- The bundle of a file (`load`) has the resources that the file holds, and their locale. -/
theorem load_eq_ok_iff {b : Bundle} :
    load decoder fs path = .ok b ↔
      b.path = path ∧ Reads decoder fs path b.resources ∧ Sound path b.resources ∧
        LocaleIs path b.resources b.locale := by
  constructor
  · intro h
    rcases reads_or_refused_or_escapes decoder fs path with
      ⟨resources, hreads⟩ | ⟨-, f, -, herror⟩ | ⟨-, e, herror, -⟩
    · -- of the three outcomes only the first can be a bundle
      rw [load_of_reads hreads, mapError_eq_ok_iff] at h
      rcases ofResources_cases path resources with ⟨hsound, locale, hlocale, hok⟩ | ⟨f, -, herror⟩
      · cases hok.symm.trans h
        exact ⟨rfl, hreads, hsound, hlocale⟩
      · cases herror.symm.trans h
    · cases herror.symm.trans h
    · cases herror.symm.trans h
  · obtain ⟨path', locale, resources⟩ := b
    rintro ⟨rfl, hreads, hsound, hlocale⟩
    rw [load_of_reads hreads, mapError_eq_ok_iff]
    rcases ofResources_cases path' resources with ⟨-, locale', hlocale', hok⟩ | ⟨f, hunsound, -⟩
    · rw [hok, hlocale'.unique hlocale]
    · exact absurd hsound hunsound.not_sound

/-- A file gives a bundle if and only if it can be read, holds white space or an object, and none of
the causes applies to its resources. It gives one, or is refused (`Refused`) for the first cause
that applies, if and only if its bytes are a text and the decoder does not give the text up. -/
theorem loaded_or_refused_iff (decoder : JsonDecoder) (fs : FileSystem) (path : String) :
    ((∃ b, load decoder fs path = .ok b) ↔
        ∃ resources, Reads decoder fs path resources ∧ Sound path resources) ∧
      (((∃ b, load decoder fs path = .ok b) ∨
          ∃ f, load decoder fs path = .error (.fault f) ∧ Refused decoder fs path f) ↔
        ¬ Escapes decoder fs path) := by
  refine ⟨⟨?_, ?_⟩, ⟨?_, fun h => ?_⟩⟩
  · -- a bundle has all that is asked for
    rintro ⟨b, hb⟩
    obtain ⟨-, hreads, hsound, -⟩ := load_eq_ok_iff.1 hb
    exact ⟨b.resources, hreads, hsound⟩
  · rintro ⟨resources, hreads, hsound⟩
    rcases ofResources_cases path resources with ⟨-, locale, -, hok⟩ | ⟨f, hunsound, -⟩
    · exact ⟨_, by rw [load_of_reads hreads, hok]; rfl⟩
    · exact absurd hsound hunsound.not_sound
  · -- neither a bundle nor words of the program come from a file that escapes
    rintro (⟨b, hb⟩ | ⟨f, hf, -⟩)
    · exact (load_eq_ok_iff.1 hb).2.1.not_escapes
    · -- otherwise there are resources to judge, or the file is refused before that
      rcases reads_or_refused_or_escapes decoder fs path with
        ⟨resources, hreads⟩ | ⟨hescapes, -⟩ | ⟨-, e, herror, he⟩
      · exact hreads.not_escapes
      · exact hescapes
      · cases herror.symm.trans hf
        exact absurd rfl (he f)
  · rcases reads_or_refused_or_escapes decoder fs path with
      ⟨resources, hreads⟩ | ⟨-, f, hrefused, herror⟩ | ⟨hescapes, -⟩
    · rcases ofResources_cases path resources with ⟨-, locale, -, hok⟩ | ⟨f, hunsound, herror⟩
      · exact .inl ⟨_, by rw [load_of_reads hreads, hok]; rfl⟩
      · exact .inr ⟨f, by rw [load_of_reads hreads, herror]; rfl, .unsound hreads hunsound⟩
    · exact .inr ⟨f, herror, hrefused⟩
    · exact absurd hescapes h

end

/-- A bundle file that is not UTF-8. -/
def bytesOnly : FileSystem := ⟨[(⟨"", ["l10n", "app_en.arb"]⟩, .undecodable)], [], none⟩

/-- A file that is not UTF-8 (`bytesOnly`) gives no bundle and is not refused in the program's
words. -/
theorem not_loaded_bytesOnly :
    ¬ ((∃ b, load (Json.decoder 1000) bytesOnly "l10n/app_en.arb" = .ok b) ∨
      ∃ f, load (Json.decoder 1000) bytesOnly "l10n/app_en.arb" = .error (.fault f)) := by
  have hload : load (Json.decoder 1000) bytesOnly "l10n/app_en.arb" = .error .undecodable := rfl
  rw [hload]
  rintro (⟨b, hb⟩ | ⟨f, hf⟩)
  · cases hb
  · cases hf

end Parlance.Bundle
