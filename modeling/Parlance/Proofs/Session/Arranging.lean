import Mathlib.Data.String.Basic
import Parlance.Proofs.Collection.Consistency
import Parlance.Proofs.Locale.Tags
import Parlance.Proofs.Placeholder.Inference
import Parlance.Proofs.Session.Runs

/-!
# The order of the supported locales

A collection that was loaded has locales with distinct tags, each the one that its tag is read as
(`Collection.sound_of_ofDirectory`). So what a tag is read as is either the locale of a bundle as a
whole or has no bundle. Preferred locales are kept in the order in which they come first
(`preferred_cases`), and the others follow in the order of their tags: altogether the locales of the
collection, each once (`supportedLocales_reorder`).
-/

namespace Parlance

open Session

/-! ## Collections that were loaded -/

namespace Collection

/-- Whether the locales of a collection have distinct tags and are what their tags are read as. -/
structure Sound (c : Collection) : Prop where
  distinct : (c.locales.map (·.tag)).Nodup
  read : ∀ l ∈ c.locales, Locale.parse l.tag = .ok l

/-- A collection that was loaded (`Collection.ofDirectory`) has bundles with distinct tags, each
read from a file. -/
theorem loads_of_ofDirectory {decoder : JsonDecoder} {fs : FileSystem} {directory : String}
    {c : Collection} (h : ofDirectory decoder fs directory = .ok c) :
    (tagsOf c.bundles).Nodup ∧ ∀ b ∈ c.bundles, ∃ path, Bundle.load decoder fs path = .ok b := by
  unfold ofDirectory at h
  split at h
  · cases h
  · split at h
    · cases h
    · next paths _ bundles hbundles =>
      -- The bundles were loaded one by one, and `ofBundles` has let them through.
      obtain ⟨hdistinct, _, hc⟩ := ofBundles_eq_ok_iff.1 (mapError_eq_ok_iff.1 h)
      subst hc
      refine ⟨hdistinct, ?_⟩
      intro b hb
      obtain ⟨path, _, hload⟩ := exists_mem_of_forall₂ (mapM_eq_ok_iff.1 hbundles) hb
      exact ⟨path, hload⟩

/-- A collection that was loaded is sound (`Sound`). -/
theorem sound_of_ofDirectory {decoder : JsonDecoder} {fs : FileSystem} {directory : String}
    {c : Collection} (h : ofDirectory decoder fs directory = .ok c) : c.Sound := by
  obtain ⟨hdistinct, hloads⟩ := loads_of_ofDirectory h
  constructor
  · rw [locales, List.map_map]
    exact hdistinct
  · intro l hl
    obtain ⟨b, hb, hlocale⟩ := List.mem_map.1 hl
    obtain ⟨path, hload⟩ := hloads b hb
    obtain ⟨tag, htag⟩ := Bundle.exists_parse_of_load hload
    exact hlocale ▸ Locale.parse_tag htag

/-- Whether a tag is read as no locale, or as one that has no bundle. -/
def Lacks (c : Collection) (tag : String) : Prop :=
  ∀ l, Locale.parse tag = .ok l → c.bundleFor? l = none

variable {c : Collection}

/-- A collection has no bundle (`bundleFor?`) for a locale if and only if the tag is not among its
tags. -/
theorem bundleFor?_eq_none_iff {l : Locale} :
    c.bundleFor? l = none ↔ l.tag ∉ c.locales.map (·.tag) := by
  rw [bundleFor?, find?_same_eq_none_iff, tagsOf, locales, List.map_map]
  rfl

/-- A locale that a tag is read as (`Locale.parse`) is the one of a bundle, if a bundle has its tag.
-/
theorem Sound.mem_of_tag (h : c.Sound) {tag : String} {l : Locale} (hl : Locale.parse tag = .ok l)
    (htag : l.tag ∈ c.locales.map (·.tag)) : l ∈ c.locales := by
  obtain ⟨other, hother, heq⟩ := List.mem_map.1 htag
  have hread := h.read other hother
  rw [heq, Locale.parse_tag hl] at hread
  cases hread
  exact hother

end Collection

namespace Session

/-- Bundles that are found are those of the configured directory (`ofDirectory`), and the template
is one of them. -/
theorem ofDirectory_of_findBundles {s : Session} {fs : FileSystem} {r : Collection × Bundle}
    (h : s.findBundles fs = .ok r) :
    Collection.ofDirectory s.decoder fs (s.config.bundlesPath s.project) = .ok r.1 ∧
      r.2 ∈ r.1.bundles := by
  dsimp only [findBundles] at h
  split at h
  · cases h
  · obtain ⟨c, hc, hfound⟩ := bind_eq_ok_iff.1 h
    -- there are bundles, and one of them is the template
    split at hfound
    · cases hfound
    · split at hfound
      · next template htemplate =>
        cases hfound
        exact ⟨hc, List.mem_of_find?_eq_some htemplate⟩
      · cases hfound

end Session

/-! ## Preferred locales -/

/-- Whether a failure is one of the configuration. -/
def Fault.IsConfig : Fault → Prop
  | .invalidConfigValue _ _ _ => True
  | .unknownPreferredLocale _ _ => True
  | .headerUnreadable _ _ => True
  | _ => False

namespace Session

variable {c : Collection}

/-- Some locale is the same if and only if its tag is among the tags. -/
private theorem any_same_iff {locales : List Locale} {l : Locale} :
    locales.any l.same = true ↔ l.tag ∈ locales.map (·.tag) := by
  simp only [List.any_eq_true, Locale.same, beq_iff_eq, List.mem_map]
  exact exists_congr fun _ => and_congr_right fun _ => eq_comm

/-- What is done about a tag that is read as a locale (`Locale.parse`) goes by the tags of the
locales that there are, and of those that are chosen already. -/
private theorem preferred_cons {available chosen : List Locale} {tag : String} {l : Locale}
    (h : Locale.parse tag = .ok l) (rest : List String) :
    preferred available chosen (tag :: rest) =
      if l.tag ∈ available.map (·.tag) then
        if l.tag ∈ chosen.map (·.tag) then preferred available chosen rest
        else preferred available (chosen ++ [l]) rest
      else .error (.unknownPreferredLocale l.tag ((Locale.sort available).map (·.tag))) := by
  rw [preferred, h]
  simp only [Bool.not_eq_true', ← Bool.not_eq_true, any_same_iff, ite_not]

/-- Of tags without some that are taken, the first one stands first, and what follows it is taken
without it as well. -/
private theorem eraseDups_filter_cons {taken : List String} {tag : String} (h : tag ∉ taken)
    (rest : List String) :
    ((tag :: rest).filter fun t => !taken.contains t).eraseDups =
      tag :: (rest.filter fun t => !(taken ++ [tag]).contains t).eraseDups := by
  rw [List.filter_cons_of_pos (by simpa using h), List.eraseDups_cons, List.filter_filter]
  congr 3
  funext t
  by_cases htag : t = tag <;> simp [htag]

/-- Preferred (`preferred`) locales behind some that are chosen already. If the collection lacks one
of the tags there are none, which is a failure of the configuration; else those are added whose tags
are new, in the order in which they come first. -/
theorem preferred_cases (hc : c.Sound) (chosen : List Locale) (tags : List String) :
    ((∃ tag ∈ tags, c.Lacks tag) ∧
      ∃ f, preferred c.locales chosen tags = .error f ∧ f.IsConfig) ∨
    ((∀ tag ∈ tags, ¬ c.Lacks tag) ∧
      ∃ more, preferred c.locales chosen tags = .ok (chosen ++ more) ∧ more ⊆ c.locales ∧
        more.map (·.tag) = ((tags.map Locale.normalize).filter
          fun tag => !(chosen.map (·.tag)).contains tag).eraseDups) := by
  induction tags generalizing chosen with
  | nil => exact .inr ⟨nofun, [], by simp [preferred]⟩
  | cons tag rest ih =>
    cases hparse : Locale.parse tag with
    | error e =>
      have hlacks : c.Lacks tag := by
        intro l hl
        cases hparse.symm.trans hl
      refine .inl ⟨⟨tag, List.mem_cons_self, hlacks⟩,
        .invalidConfigValue "preferred-supported-locales" "locale tags" "str", ?_, trivial⟩
      rw [preferred, hparse]
    | ok l =>
      obtain ⟨htag, _⟩ := Locale.tag_of_parse hparse
      rw [preferred_cons hparse, List.map_cons, ← htag]
      by_cases hthere : l.tag ∈ c.locales.map (·.tag)
      · have hkept : ¬ c.Lacks tag := by
          intro hlacks
          exact Collection.bundleFor?_eq_none_iff.1 (hlacks l hparse) hthere
        rw [if_pos hthere]
        by_cases hchosen : l.tag ∈ chosen.map (·.tag)
        · -- the tag has come before, so that it changes nothing
          rw [if_pos hchosen, List.filter_cons_of_neg (by simpa using hchosen)]
          cases ih chosen with
          | inl hbad =>
            obtain ⟨⟨bad, hmem, hlacks⟩, hfails⟩ := hbad
            exact .inl ⟨⟨bad, List.mem_cons_of_mem _ hmem, hlacks⟩, hfails⟩
          | inr hgood =>
            obtain ⟨hall, hmore⟩ := hgood
            exact .inr ⟨List.forall_mem_cons.2 ⟨hkept, hall⟩, hmore⟩
        · -- the locale of the bundle is chosen next
          rw [if_neg hchosen, eraseDups_filter_cons hchosen]
          cases ih (chosen ++ [l]) with
          | inl hbad =>
            obtain ⟨⟨bad, hmem, hlacks⟩, hfails⟩ := hbad
            exact .inl ⟨⟨bad, List.mem_cons_of_mem _ hmem, hlacks⟩, hfails⟩
          | inr hgood =>
            obtain ⟨hall, more, hresult, hsubset, hmore⟩ := hgood
            refine .inr ⟨List.forall_mem_cons.2 ⟨hkept, hall⟩, l :: more, ?_, ?_, ?_⟩
            · rw [hresult, List.append_assoc, List.singleton_append]
            · exact List.cons_subset.2 ⟨hc.mem_of_tag hparse hthere, hsubset⟩
            · rw [List.map_cons, hmore, List.map_append, List.map_singleton]
      · have hlacks : c.Lacks tag := by
          intro l' hl'
          cases hparse.symm.trans hl'
          exact Collection.bundleFor?_eq_none_iff.2 hthere
        rw [if_neg hthere]
        exact .inl ⟨⟨tag, List.mem_cons_self, hlacks⟩, _, rfl, trivial⟩

/-! ## All locales -/

/-- `eraseDups` leaves every tag once. -/
private theorem nodup_eraseDups (tags : List String) : tags.eraseDups.Nodup := by
  -- what is left behind the first tag is no tail of the list, so the induction is on the length
  induction h : tags.length using Nat.strongRecOn generalizing tags with
  | _ n ih =>
    cases tags with
    | nil => exact List.nodup_nil
    | cons tag rest =>
      rw [List.eraseDups_cons, List.nodup_cons]
      have hshorter : (rest.filter fun t => !t == tag).length < n := by
        have hfilter := List.length_filter_le (fun t => !t == tag) rest
        rw [List.length_cons] at h
        omega
      constructor
      · intro hmem
        have hmem := List.mem_eraseDups.1 hmem
        simp at hmem
      · exact ih _ hshorter _ rfl

/-- Locales that are put in order are those of the collection, each once: first those whose tags are
preferred, in the order in which they come first, and then all others in the order of their tags. -/
structure Reorders (c : Collection) (tags : List String) (first rest : List Locale) : Prop where
  perm : (first ++ rest).Perm c.locales
  nodup : (first ++ rest).Nodup
  preferred : first.map (·.tag) = (tags.map Locale.normalize).eraseDups
  ascending : rest.Pairwise fun a b => a.tag < b.tag

/-- Preferred locales followed by the others in order are a reordering (`Reorders`). -/
theorem reorders_append_sort (hc : c.Sound) {tags : List String} {first : List Locale}
    (hsubset : first ⊆ c.locales)
    (hfirst : first.map (·.tag) = (tags.map Locale.normalize).eraseDups) :
    Reorders c tags first (Locale.sort (c.locales.filter fun l => !first.any l.same)) := by
  have hnodup : c.locales.Nodup := List.Nodup.of_map _ hc.distinct
  have hdistinct : first.Nodup := by
    apply List.Nodup.of_map (·.tag)
    rw [hfirst]
    exact nodup_eraseDups _
  have hchosen : first.Perm (c.locales.filter fun l => first.any l.same) := by
    rw [List.perm_ext_iff_of_nodup hdistinct (hnodup.filter _)]
    intro l
    rw [List.mem_filter, any_same_iff]
    constructor
    · intro hl
      exact ⟨hsubset hl, List.mem_map_of_mem hl⟩
    · rintro ⟨hl, htag⟩
      -- of the locales of the collection only one has the tag
      obtain ⟨other, hother, heq⟩ := List.mem_map.1 htag
      have hsame := List.inj_on_of_nodup_map hc.distinct (hsubset hother) hl heq
      exact hsame ▸ hother
  have hperm : (first ++ Locale.sort (c.locales.filter fun l => !first.any l.same)).Perm
      c.locales :=
    (hchosen.append (List.mergeSort_perm _ _)).trans (List.filter_append_perm _ _)
  constructor
  · exact hperm
  · exact hperm.nodup_iff.2 hnodup
  · exact hfirst
  · apply pairwise_lt_mergeSort
    exact List.Nodup.sublist (List.filter_sublist.map _) hc.distinct

/-- Locales are put in order (`arrange`) if and only if the collection lacks no preferred tag, and
then they are a reordering; if it lacks one, that is a failure of the configuration. -/
theorem arrange_cases (hc : c.Sound) (tags : List String) :
    ((∃ tag ∈ tags, c.Lacks tag) ∧ ∃ f, arrange c.locales tags = .error f ∧ f.IsConfig) ∨
    ((∀ tag ∈ tags, ¬ c.Lacks tag) ∧ ∃ first rest, arrange c.locales tags = .ok (first ++ rest) ∧
      Reorders c tags first rest) := by
  rw [arrange]
  -- either some tag lacks a bundle, or all of them lead the list
  cases preferred_cases hc [] tags with
  | inl hbad =>
    obtain ⟨hlacks, f, hresult, hconfig⟩ := hbad
    refine .inl ⟨hlacks, f, ?_, hconfig⟩
    rw [hresult]
    rfl
  | inr hgood =>
    obtain ⟨hall, first, hresult, hsubset, hfirst⟩ := hgood
    refine .inr ⟨hall, first, _, ?_, reorders_append_sort hc hsubset (by simpa using hfirst)⟩
    rw [hresult]
    rfl

/-- Locales that were put in order (`arrange`) have distinct tags. -/
theorem nodup_tags_of_arrange (hc : c.Sound) {tags : List String} {locales : List Locale}
    (h : arrange c.locales tags = .ok locales) : (locales.map (·.tag)).Nodup := by
  cases arrange_cases hc tags with
  | inl hbad =>
    obtain ⟨_, f, hresult, _⟩ := hbad
    cases hresult.symm.trans h
  | inr hgood =>
    obtain ⟨_, first, rest, hresult, hreorders⟩ := hgood
    cases hresult.symm.trans h
    exact (hreorders.perm.map _).nodup_iff.2 hc.distinct

/-- What the supported locales (`supportedLocales`) of a session are goes by what its collection is.
-/
theorem result_supportedLocales {w : Work} {template : Bundle}
    (h : (resources w).2.result = .ok (c, template)) :
    (supportedLocales w).2.result =
      (arrange c.locales w.session.config.preferredLocales).mapError .fault := by
  obtain ⟨_, hconfig, _⟩ := loaded_of_resources (Job.ends_of_result h)
  rw [supportedLocales, (Job.bind_of_ok h).2, ← hconfig]
  rfl

/-- If a tag is preferred that is no locale or has no bundle, then there are no supported locales
(`supportedLocales`), and every failure is one of the configuration; and else they are the locales
of the collection in another order. -/
theorem supportedLocales_reorder {decoder : JsonDecoder} {fs : FileSystem} {directory : String}
    {c : Collection} (hc : Collection.ofDirectory decoder fs directory = .ok c) {w : Work}
    {template : Bundle}
    (hw : (resources w).2.result = .ok (c, template)) :
    ((∃ e, (supportedLocales w).2.result = .error e) ↔
      ∃ tag ∈ w.session.config.preferredLocales, c.Lacks tag) ∧
    (∀ e, (supportedLocales w).2.result = .error e → ∃ f, e = .fault f ∧ f.IsConfig) ∧
    ((∀ tag ∈ w.session.config.preferredLocales, ¬ c.Lacks tag) →
      ∃ first rest, (supportedLocales w).2.result = .ok (first ++ rest) ∧
        Reorders c w.session.config.preferredLocales first rest) := by
  rw [result_supportedLocales hw]
  -- Either side of `arrange_cases` settles all three parts.
  cases arrange_cases (Collection.sound_of_ofDirectory hc) w.session.config.preferredLocales with
  | inl hbad =>
    obtain ⟨hlacks, f, hresult, hconfig⟩ := hbad
    rw [hresult]
    refine ⟨⟨fun _ => hlacks, fun _ => ⟨_, rfl⟩⟩, ?_, ?_⟩
    · intro e he
      cases he
      exact ⟨f, rfl, hconfig⟩
    · intro hall
      obtain ⟨tag, htag, hlack⟩ := hlacks
      exact absurd hlack (hall tag htag)
  | inr hgood =>
    obtain ⟨hall, first, rest, hresult, hreorders⟩ := hgood
    rw [hresult]
    refine ⟨⟨?_, ?_⟩, nofun, fun _ => ⟨first, rest, rfl, hreorders⟩⟩
    · intro hfails
      obtain ⟨e, he⟩ := hfails
      cases he
    · intro hlacks
      obtain ⟨tag, htag, hlack⟩ := hlacks
      exact absurd hlack (hall tag htag)

/-- Bundles of three locales, two of which lack messages. -/
def travelFiles : FileSystem :=
  .ofTexts [("l10n/app_en.arb", "\x7b\"hello\": \"Hello\", \"bye\": \"Bye\"\x7d"),
    ("l10n/app_fr.arb", "\x7b\"hello\": \"Bonjour\"\x7d"), ("l10n/app_fr_CA.arb", "\x7b\x7d")]

/-- A reader of JSON with room enough for these bundles. -/
def travelDecoder : JsonDecoder := Json.decoder 100

/-- The paths of the bundles, in order. -/
def travelPaths : List String := ["l10n/app_en.arb", "l10n/app_fr.arb", "l10n/app_fr_CA.arb"]

/-- The bundles as they are read from the files. -/
def travelCollection : Collection :=
  ⟨"l10n", (travelPaths.mapM (Bundle.load travelDecoder travelFiles)).toOption.getD []⟩

/-- The files of the directory that are bundles, in order. -/
private theorem bundlePaths_travelFiles : Collection.bundlePaths travelFiles "l10n" =
    .ok travelPaths := by
  have hlisted : travelFiles.listDirectory "l10n" = .ok travelPaths := by decide +kernel
  have hnames : (travelPaths.filter fun p => Collection.isBundleName (Path.nameOf p)) =
      travelPaths := by
    decide +kernel
  have hsorted : travelPaths.mergeSort (fun a b => decide (a ≤ b)) = travelPaths := by
    apply List.mergeSort_of_pairwise
    decide +kernel
  simp only [Collection.bundlePaths, hlisted, hnames, hsorted]

/-- The collection of the directory (`ofDirectory`). -/
theorem ofDirectory_travelFiles :
    Collection.ofDirectory travelDecoder travelFiles "l10n" = .ok travelCollection := by
  have hloads : (travelPaths.mapM (Bundle.load travelDecoder travelFiles)).isOk = true := by
    decide +kernel
  obtain ⟨bundles, hbundles⟩ := exists_eq_ok_of_isOk hloads
  have heq : travelCollection = ⟨"l10n", bundles⟩ := by
    rw [travelCollection, hbundles]
    rfl
  have hdistinct : (Collection.tagsOf travelCollection.bundles).Nodup := by decide +kernel
  -- the two checks on the bundles are decided
  have hfallbacks : Collection.HasFallbacks travelCollection.bundles := by
    unfold Collection.HasFallbacks
    decide +kernel
  have hcollection : Collection.ofBundles "l10n" travelCollection.bundles =
      .ok ⟨"l10n", travelCollection.bundles⟩ :=
    Collection.ofBundles_eq_ok_iff.2 ⟨hdistinct, hfallbacks, rfl⟩
  rw [heq] at hcollection ⊢
  simp only [Collection.ofDirectory, bundlePaths_travelFiles, hbundles]
  exact mapError_eq_ok_iff.2 hcollection

/-- A session that prefers two of the locales, one of them under two spellings. -/
def travelWork (loaded : Option (Collection × Bundle)) (entries : List Entry) : Work where
  session := {
    decoder := travelDecoder
    config := { Config.standard with preferredLocales := ["fr-CA", "en", "fr_CA"] }
    project := "."
    loaded := loaded
    entries := entries }
  files := travelFiles

/-- A preferred tag that comes twice, in two spellings, counts once. -/
theorem supportedLocales_reorder_travel :
    Collection.ofDirectory travelDecoder travelFiles "l10n" = .ok travelCollection ∧
    ∃ template ∈ travelCollection.bundles, ∃ w : Work,
      w = travelWork (travelCollection, template) [] ∧
      (resources w).2.result = .ok (travelCollection, template) ∧
      (∀ tag ∈ ["fr-CA", "en", "fr_CA"], ¬ travelCollection.Lacks tag) ∧
      ∃ first rest, (supportedLocales w).2.result = .ok (first ++ rest) ∧
        Reorders travelCollection ["fr-CA", "en", "fr_CA"] first rest := by
  have hnonempty : travelCollection.bundles.length ≠ 0 := by decide +kernel
  obtain ⟨template, htemplate⟩ := List.exists_mem_of_length_pos (Nat.pos_of_ne_zero hnonempty)
  have hresult : (resources (travelWork (travelCollection, template) [])).2.result =
      .ok (travelCollection, template) := (ends_resources rfl).1
  have hall : ∀ tag ∈ ["fr-CA", "en", "fr_CA"], ¬ travelCollection.Lacks tag := by
    -- each tag is that of a bundle
    have hthere : ∀ tag ∈ ["fr-CA", "en", "fr_CA"],
        ∃ l ∈ travelCollection.locales, Locale.parse tag = .ok l := by
      decide +kernel
    intro tag htag hlacks
    obtain ⟨l, hl, hparse⟩ := hthere tag htag
    exact Collection.bundleFor?_eq_none_iff.1 (hlacks l hparse) (List.mem_map_of_mem hl)
  obtain ⟨_, _, hreorders⟩ := supportedLocales_reorder ofDirectory_travelFiles hresult
  exact ⟨ofDirectory_travelFiles, template, htemplate, _, rfl, hresult, hall, hreorders hall⟩

end Session

end Parlance
