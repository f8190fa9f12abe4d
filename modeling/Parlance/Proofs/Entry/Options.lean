import Parlance.Proofs.Bundle.Loading
import Parlance.Proofs.Entry.Building
import Parlance.Proofs.Entry.Order
import Parlance.Proofs.Json.Decoding
import Parlance.Proofs.Placeholder.Overrides

/-!
# Where the parameters of formats come from

The parameters of the format of a placeholder stand in the metadata of some bundle: in that of the
locale, if it declares the placeholder anew, and else in that of the template
(`exists_givesOptions_of_build`). A name that only the messages use has none.
-/

namespace Parlance

/-- Whether a bundle gives a placeholder of a message some parameters of its format. -/
def Bundle.GivesOptions (b : Bundle) (key placeholder : String) (options : Assoc Value) : Prop :=
  ∃ metadata placeholders attributes,
    Assoc.get? b.resources ("@" ++ key) = some (.object metadata) ∧
    Assoc.get? metadata "placeholders" = some (.object placeholders) ∧
    (placeholder, .object attributes) ∈ placeholders ∧
    Assoc.get? attributes "optionalParameters" = some (.object options)

/-- Whether a declaration has the parameters that a bundle gives, or none. -/
def Declared.HasOptionsOf (d : Declared) (b : Bundle) (key : String) : Prop :=
  d.parameters = [] ∨ b.GivesOptions key d.name d.parameters

/-! ## Declarations -/

namespace Declared

/-- A declaration has the parameters that its attributes (`ofAttributes`) give, or none. -/
private theorem options_of_ofAttributes {key name : String} {attributes : Assoc Value}
    {d : Declared} (h : ofAttributes key name attributes = .ok d) :
    d.name = name ∧ (d.parameters = [] ∨
      Assoc.get? attributes "optionalParameters" = some (.object d.parameters)) := by
  obtain ⟨typeName, -, h⟩ := bind_eq_ok_iff.1 h
  obtain ⟨format, -, h⟩ := bind_eq_ok_iff.1 h
  obtain ⟨sample, -, h⟩ := bind_eq_ok_iff.1 h
  obtain ⟨type, -, h⟩ := bind_eq_ok_iff.1 h
  obtain ⟨parameters, hparameters, h⟩ := bind_eq_ok_iff.1 h
  obtain ⟨custom, -, rfl⟩ := map_eq_ok_iff.1 h
  refine ⟨rfl, ?_⟩
  -- the attribute is absent, an object, or refused
  unfold objectAttribute at hparameters
  split at hparameters
  · cases hparameters
    exact .inl rfl
  · next hfield =>
    cases hparameters
    exact .inr (Bundle.field?_eq_some_iff.1 hfield).1
  · cases hparameters

/-- A declaration (`Declared`) comes from an object of attributes under its name. -/
private theorem exists_attributes_of_ofEntries {path key : String} {entries : Assoc Value}
    {declared : List Declared} (h : ofEntries path key entries = .ok declared) {d : Declared}
    (hd : d ∈ declared) :
    ∃ attributes, (d.name, .object attributes) ∈ entries ∧
      (d.parameters = [] ∨
        Assoc.get? attributes "optionalParameters" = some (.object d.parameters)) := by
  induction entries generalizing declared with
  | nil =>
    cases h
    cases hd
  | cons entry rest ih =>
    unfold ofEntries at h
    split at h
    · next heq => cases heq
    · next name attributes rest' heq =>
      cases heq
      obtain ⟨first, hfirst, hmore⟩ := bind_eq_ok_iff.1 h
      obtain ⟨others, hothers, rfl⟩ := map_eq_ok_iff.1 hmore
      -- the placeholder is that of the first entry, or of a later one
      rcases List.mem_cons.1 hd with rfl | hd
      · obtain ⟨rfl, hoptions⟩ := options_of_ofAttributes hfirst
        exact ⟨attributes, List.mem_cons_self, hoptions⟩
      · obtain ⟨attributes', hmem, hoptions⟩ := ih hothers hd
        exact ⟨attributes', List.mem_cons_of_mem _ hmem, hoptions⟩
    · cases h

/-- What the metadata (`ofMetadata`) of a bundle declares has the parameters that the bundle gives.
-/
theorem hasOptionsOf_of_ofMetadata {b : Bundle} {key : String} {metadata : Option (Assoc Value)}
    (hmetadata : b.metadata key = .ok metadata) {declared : List Declared}
    (h : ofMetadata b.path key metadata = .ok declared) {d : Declared} (hd : d ∈ declared) :
    d.HasOptionsOf b key := by
  unfold ofMetadata at h
  split at h
  · cases h
    cases hd
  · next entries =>
    split at h
    · cases h
      cases hd
    · next placeholders hplaceholders =>
      obtain ⟨attributes, hmem, hoptions⟩ := exists_attributes_of_ofEntries h hd
      -- The path of the parameters through the resources: metadata, `placeholders`, attributes.
      refine hoptions.imp_right fun hfield => ?_
      unfold Bundle.metadata Bundle.metadataIn at hmetadata
      split at hmetadata
      · cases hmetadata
      · next hobject =>
        cases hmetadata
        exact ⟨entries, placeholders, attributes, (Bundle.field?_eq_some_iff.1 hobject).1,
          (Bundle.field?_eq_some_iff.1 hplaceholders).1, hmem, hfield⟩
      · cases hmetadata
    · cases h

end Declared

/-! ## Placeholders -/

section

variable {key : String} {declared : List Declared} {usages : Usages} {template : List Resolved}

/-- A placeholder of the template (`templateOf`) has a declaration, or nothing but a name. -/
private theorem declared_of_mem_templateOf {occurs : String → Use → Prop}
    (htallies : Tallies usages occurs)
    (h : Inferred.templateOf key declared usages = .ok template) {p : Resolved}
    (hp : p ∈ template) : p.declared ∈ declared ∨ p.declared = .bare p.name := by
  obtain ⟨first, second, rfl, hfirst, hsecond⟩ := (templateOf_eq_ok_iff htallies key template).1 h
  rcases List.mem_append.1 hp with hp | hp
  · obtain ⟨d, hd, -, hsettled⟩ := exists_mem_of_forall₂ hfirst hp
    exact .inl (hsettled.declared ▸ hd)
  · obtain ⟨name, -, -, hsettled⟩ := exists_mem_of_forall₂ hsecond hp
    refine .inr ?_
    rw [Resolved.name, hsettled.declared]
    rfl

/-- A placeholder that a locale declares anew (`overridesOf`) has the parameters that the locale
declares. -/
private theorem exists_declared_of_mem_overridesOf {occurs : String → Use → Prop}
    (htallies : Tallies usages occurs) {records : List Resolved}
    (h : Inferred.overridesOf key usages template declared = .ok records) {r : Resolved}
    (hr : r ∈ records) :
    ∃ d ∈ declared, r.name = d.name ∧ r.declared.parameters = d.parameters := by
  obtain ⟨d, hd, base, -, hoverride⟩ := exists_of_mem_overridesOf h hr
  obtain ⟨checked, -, hsettled, rfl⟩ := exists_settled_of_overrideOf htallies hoverride
  exact ⟨d, hd, by rw [Resolved.name, hsettled.declared], by rw [hsettled.declared]⟩

end

namespace Entry

section

variable {options : EntryOptions} {template : Bundle} {collection : Collection} {key : String}

/-- What a draft (`draft`) declares anew has the parameters that its bundle gives. -/
theorem hasOptionsOf_of_draft {reference : String} {notes : Notes} {bundle : Bundle} {draft : Draft}
    (h : (Entry.draft options template reference notes key bundle).result = .ok draft)
    {d : Declared} (hd : d ∈ draft.declared) : d.HasOptionsOf bundle key := by
  rw [Entry.draft] at h
  obtain ⟨translation, -, h⟩ := Logged.bind_result_eq_ok_iff.1 h
  obtain ⟨declared, hdeclared, h⟩ := Logged.bind_result_eq_ok_iff.1 h
  obtain ⟨message, -, h⟩ := Logged.bind_result_eq_ok_iff.1 h
  cases h
  change _ = Except.ok declared at hdeclared
  -- the template declares nothing anew
  split at hdeclared
  · cases hdeclared
    cases hd
  · obtain ⟨metadata, hmetadata, hread⟩ := bind_eq_ok_iff.1 (mapError_eq_ok_iff.1 hdeclared)
    exact Declared.hasOptionsOf_of_ofMetadata hmetadata hread hd

/-- What the template says of a message (`notesOf`) declares placeholders with the parameters that
the template gives. -/
theorem hasOptionsOf_of_notesOf {required : Bool} {notes : Notes}
    (h : notesOf template key required = .ok notes) {d : Declared} (hd : d ∈ notes.declared) :
    d.HasOptionsOf template key := by
  obtain ⟨metadata, hmetadata, h⟩ := bind_eq_ok_iff.1 h
  split at h
  · cases h
  · obtain ⟨description, -, h⟩ := bind_eq_ok_iff.1 h
    obtain ⟨context, -, h⟩ := bind_eq_ok_iff.1 h
    obtain ⟨declared, hdeclared, rfl⟩ := map_eq_ok_iff.1 h
    exact Declared.hasOptionsOf_of_ofMetadata hmetadata hdeclared hd

/-- The records of a rendition are those of a locale of the same tag (`same`). -/
private theorem exists_of_mem_settle {overrides : List (Locale × List Resolved)} {d : Draft}
    {q : Resolved} (hq : q ∈ (d.settle overrides).overrides) :
    ∃ o ∈ overrides, o.1.same d.rendition.locale = true ∧ q ∈ o.2 := by
  rw [Draft.settle] at hq
  dsimp only at hq
  split at hq
  · next o hfind =>
    have hsame : o.1.same d.rendition.locale = true := by simpa using List.find?_some hfind
    exact ⟨o, List.mem_of_find?_eq_some hfind, hsame, hq⟩
  · cases hq

/-- A placeholder (`placeholdersFor`) as a locale formats it is one of the entry, or one that a
rendition in the locale overrides it by. -/
private theorem mem_placeholdersFor {e : Entry} {locale : Locale} {p : Resolved}
    (hp : p ∈ e.placeholdersFor locale) :
    p ∈ e.placeholders ∨ ∃ r ∈ e.renditions, r.locale.same locale = true ∧ p ∈ r.overrides := by
  rw [placeholdersFor] at hp
  obtain ⟨base, hbase, rfl⟩ := List.mem_map.1 hp
  -- An override counts only if the locale has a rendition and this has one of the same name.
  cases hrendition : e.renditionFor? locale with
  | none => exact .inl hbase
  | some r =>
    have hsame : r.locale.same locale = true := by
      simpa using List.find?_some (p := fun r : Rendition => r.locale.same locale) hrendition
    dsimp only
    cases hfind : r.overrides.find? (·.name == base.name) with
    | none => exact .inl hbase
    | some q =>
      exact .inr ⟨r, List.mem_of_find?_eq_some hrendition, hsame,
        List.mem_of_find?_eq_some hfind⟩

/-- A placeholder has the parameters that a bundle gives (`GivesOptions`), or none. The bundle is
the template, or it is that of the locale by which the placeholder is formatted. -/
theorem exists_givesOptions_of_build {e : Entry}
    (h : (build options template collection key).result = .ok e) {locale : Locale} {p : Resolved}
    (hp : p ∈ e.placeholdersFor locale) :
    p.declared.parameters = [] ∨ ∃ b ∈ template :: collection.bundles,
      (b = template ∨ b.locale.same locale = true) ∧
        b.GivesOptions key p.name p.declared.parameters := by
  obtain ⟨reference, -, h⟩ := Logged.bind_result_eq_ok_iff.1 h
  obtain ⟨notes, hnotes, h⟩ := Logged.bind_result_eq_ok_iff.1 h
  obtain ⟨drafts, hdrafts, h⟩ := Logged.bind_result_eq_ok_iff.1 h
  obtain ⟨inferred, hinferred, rfl⟩ := ofDrafts_eq_ok_iff.1 (mapError_eq_ok_iff.1 h)
  obtain ⟨usages, husages, htemplate, hoverrides⟩ := inferPlaceholders_eq_ok_iff.1 hinferred
  have htallies := tallies_usagesOf husages
  rcases mem_placeholdersFor hp with hbase | ⟨r, hr, hlocale, hoverride⟩
  · rcases declared_of_mem_templateOf htallies htemplate hbase with hdeclared | hbare
    · refine (hasOptionsOf_of_notesOf (mapError_eq_ok_iff.1 hnotes) hdeclared).imp_right
        fun hgives => ?_
      exact ⟨template, List.mem_cons_self, .inl rfl, hgives⟩
    · rw [hbare]
      exact .inl rfl
  · -- the record is that of the draft of a bundle whose locale has the tag of the rendition
    obtain ⟨draft, -, rfl⟩ := List.mem_map.1 hr
    obtain ⟨⟨tagged, records⟩, ho, hsame, hrecord⟩ := exists_of_mem_settle hoverride
    obtain ⟨declared, hmem, hrecords⟩ := exists_of_mem_allOverrides hoverrides ho
    obtain ⟨source, hsource, hpair⟩ := List.mem_filterMap.1 hmem
    split at hpair
    · cases hpair
    · cases hpair
      obtain ⟨b, hb, hdraft⟩ :=
        exists_mem_of_forall₂ (Logged.traverse_result_eq_ok_iff.1 hdrafts) hsource
      obtain ⟨d, hd, hname, hparameters⟩ :=
        exists_declared_of_mem_overridesOf htallies hrecords hrecord
      rw [hname, hparameters]
      refine (hasOptionsOf_of_draft hdraft hd).imp_right fun hgives => ?_
      have htag : b.locale.same locale = true := by
        rw [locale_of_draft hdraft, Locale.same, beq_iff_eq] at hsame
        rw [Draft.settle, Locale.same, beq_iff_eq] at hlocale
        rw [Locale.same, beq_iff_eq, hsame, hlocale]
      exact ⟨b, List.mem_cons_of_mem _ hb, .inr htag, hgives⟩

end

end Entry

/-! ## Parameters of decoded bundles -/

/-- The entries of an object that JSON decodes (`Decoded`) to have distinct names and decoded
values. -/
theorem Value.Decoded.entries {entries : List (String × Value)}
    (h : (Value.object entries).Decoded) :
    (entries.map (·.1)).Nodup ∧ ∀ e ∈ entries, e.2.Decoded := by
  cases h with
  | object distinct each => exact ⟨distinct, each⟩

/-- The value of a name in such an object is decoded (`Decoded`). -/
theorem Value.Decoded.get? {entries : Assoc Value} (h : (Value.object entries).Decoded)
    {name : String} {v : Value} (hv : Assoc.get? entries name = some v) : v.Decoded := by
  obtain ⟨entry, hentry, rfl⟩ := Option.map_eq_some_iff.1 hv
  exact h.entries.2 entry (List.mem_of_find?_eq_some hentry)

/-- The resources of a bundle are what JSON decodes (`Decodes`) to. -/
theorem Bundle.Decodes.decoded {decoder : JsonDecoder} (hdecoder : decoder.Documented)
    {content : String} {resources : Assoc Value} (h : Bundle.Decodes decoder content resources) :
    (Value.object resources).Decoded := by
  rcases h with ⟨-, rfl⟩ | ⟨-, hread⟩
  · exact .object (by simp) (by simp)
  · exact hdecoder _ _ hread

/-- Parameters that a decoded (`Decoded`) bundle gives have distinct names and decoded values. -/
theorem Bundle.GivesOptions.decoded {b : Bundle} {key placeholder : String} {options : Assoc Value}
    (h : b.GivesOptions key placeholder options) {decoder : JsonDecoder}
    (hdecoder : decoder.Documented) {content : String}
    (hdecodes : Bundle.Decodes decoder content b.resources) : (Value.object options).Decoded := by
  obtain ⟨metadata, placeholders, attributes, hmetadata, hplaceholders, hattributes, hoptions⟩ := h
  have hdeclared := ((hdecodes.decoded hdecoder).get? hmetadata).get? hplaceholders
  exact (hdeclared.entries.2 _ hattributes).get? hoptions

end Parlance
