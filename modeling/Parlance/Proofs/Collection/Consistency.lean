import Mathlib.Data.List.Nodup
import Parlance.Collection

/-!
# Which bundles make a collection

Bundles make a collection if and only if no two of them have one locale and every language with a
variant has a bundle of its own (`ofBundles_eq_ok_iff`). The order of the bundles decides about the
failure that is reported and about nothing else: the first bundle whose locale came before is
refused (`FirstDuplicate`), and if there is none, the first language that lacks a bundle of its own
(`FirstWithoutFallback`).
-/

namespace Parlance

namespace Collection

/-- The tags of the locales of some bundles. -/
def tagsOf (bundles : List Bundle) : List String := bundles.map (·.locale.tag)

/-- Whether the bundles of each language with a variant have one for the language itself. -/
def HasFallbacks (bundles : List Bundle) : Prop :=
  ∀ b ∈ bundles, b.locale.hasVariant = true → b.locale.languageTag ∈ tagsOf bundles

/-- A search by `Locale.same` finds nothing if and only if the tag of the locale is not among
`tagsOf`. -/
theorem find?_same_eq_none_iff {seen : List Bundle} {locale : Locale} :
    (seen.find? fun s => s.locale.same locale) = none ↔ locale.tag ∉ tagsOf seen := by
  simp [List.find?_eq_none, tagsOf, Locale.same]

/-- Whether a bundle is the first one whose tag came before, and which bundle it came with. -/
def FirstDuplicate (bundles : List Bundle) (first second : Bundle) : Prop :=
  ∃ before after, bundles = before ++ second :: after ∧ (tagsOf before).Nodup ∧ first ∈ before ∧
    first.locale.tag = second.locale.tag

/-- Whether a language is the first one, in the order in which their variants come, that has no
bundle of its own. -/
def FirstWithoutFallback (bundles : List Bundle) (language : String) : Prop :=
  ∃ before b after, bundles = before ++ b :: after ∧
    (∀ a ∈ before, a.locale.hasVariant = true → a.locale.languageTag ∈ tagsOf bundles) ∧
    b.locale.hasVariant = true ∧ b.locale.language = language ∧
    b.locale.languageTag ∉ tagsOf bundles

/-- The tags of all variants of a language, in order. -/
def variantTags (bundles : List Bundle) (language : String) : List String :=
  (bundles.filter fun b => b.locale.hasVariant && b.locale.language == language).map (·.locale.tag)

/-- What becomes of bundles: they make a collection that has them as they are; or, if two have one
tag, the first that repeats a tag is refused, with the paths of the two; or else the first language
without a bundle of its own, with all its variants. -/
inductive Verdict (directory : String) (bundles : List Bundle) : Except Fault Collection → Prop
  | collection (hdistinct : (tagsOf bundles).Nodup) (hfallbacks : HasFallbacks bundles) :
    Verdict directory bundles (.ok ⟨directory, bundles⟩)
  | duplicate {first second} (h : FirstDuplicate bundles first second) :
    Verdict directory bundles
      (.error (.duplicateLocale second.locale.tag [first.path, second.path]))
  | missingFallback {language} (hdistinct : (tagsOf bundles).Nodup)
      (h : FirstWithoutFallback bundles language) :
    Verdict directory bundles (.error (.missingFallback language (variantTags bundles language)))

/-! ## Repeated tags -/

/-- A bundle behind one of the same tag makes the tags (`tagsOf`) repeat. -/
private theorem not_nodup_of_mem {before after : List Bundle} {first second : Bundle}
    (hfirst : first ∈ before) (hsame : first.locale.tag = second.locale.tag) :
    ¬ (tagsOf (before ++ second :: after)).Nodup := by
  intro hnodup
  rw [tagsOf, List.map_append, List.nodup_append] at hnodup
  exact hnodup.2.2 _ (List.mem_map_of_mem hfirst) _ List.mem_cons_self hsame

/-- Among bundles of distinct tags, one is found by its tag (`same`). -/
private theorem find?_same_of_mem {seen : List Bundle} (hseen : (tagsOf seen).Nodup) {b : Bundle}
    (hb : b ∈ seen) {locale : Locale} (hsame : b.locale.tag = locale.tag) :
    (seen.find? fun s => s.locale.same locale) = some b := by
  cases hfind : seen.find? fun s => s.locale.same locale with
  | none =>
    have hmem : locale.tag ∈ tagsOf seen := hsame ▸ List.mem_map_of_mem hb
    exact absurd hmem (find?_same_eq_none_iff.1 hfind)
  | some s =>
    have hs : s.locale.tag = locale.tag := by
      simpa [Locale.same] using List.find?_some hfind
    rw [List.inj_on_of_nodup_map hseen (List.mem_of_find?_eq_some hfind) hb (hs.trans hsame.symm)]

/-- After bundles of distinct tags, the first duplicate (`firstDuplicate?`) is the first bundle
whose tag is that of one of them or of one since. -/
theorem firstDuplicate?_eq_some_iff {seen bundles : List Bundle} (hseen : (tagsOf seen).Nodup)
    {first second : Bundle} :
    firstDuplicate? seen bundles = some (first, second) ↔
      ∃ before after, bundles = before ++ second :: after ∧ (tagsOf (seen ++ before)).Nodup ∧
        first ∈ seen ++ before ∧ first.locale.tag = second.locale.tag := by
  induction bundles generalizing seen with
  | nil => simp [firstDuplicate?]
  | cons b rest ih =>
    rw [firstDuplicate?]
    cases hfind : seen.find? fun s => s.locale.same b.locale with
    | some s =>
      have hs : s ∈ seen := List.mem_of_find?_eq_some hfind
      have hsame : s.locale.tag = b.locale.tag := by
        simpa [Locale.same] using List.find?_some hfind
      constructor
      · rintro ⟨⟩
        exact ⟨[], rest, rfl, by simpa using hseen, by simpa using hs, hsame⟩
      · rintro ⟨before, after, hsplit, hdistinct, hfirst, hsecond⟩
        cases before with
        | nil =>
          obtain ⟨rfl, rfl⟩ := List.cons.inj hsplit
          rw [List.append_nil] at hfirst
          rw [find?_same_of_mem hseen hfirst hsecond, Option.some.injEq] at hfind
          rw [hfind]
        | cons c before =>
          -- the bundle itself repeats a tag, and no later one is the first to do so
          obtain ⟨rfl, rfl⟩ := List.cons.inj hsplit
          exact absurd hdistinct (not_nodup_of_mem hs hsame)
    | none =>
      have hnot := find?_same_eq_none_iff.1 hfind
      have hseen' : (tagsOf (seen ++ [b])).Nodup := by
        rw [tagsOf, List.map_append]
        exact hseen.append (List.nodup_singleton _) (by simpa using hnot)
      refine (ih hseen').trans ⟨?_, ?_⟩
      · rintro ⟨before, after, rfl, hdistinct, hfirst, hsame⟩
        rw [List.append_assoc] at hdistinct hfirst
        exact ⟨b :: before, after, rfl, hdistinct, hfirst, hsame⟩
      · rintro ⟨before, after, hsplit, hdistinct, hfirst, hsame⟩
        cases before with
        | nil =>
          obtain ⟨rfl, rfl⟩ := List.cons.inj hsplit
          rw [List.append_nil] at hfirst
          exact absurd (hsame ▸ List.mem_map_of_mem hfirst) hnot
        | cons c before =>
          obtain ⟨rfl, rfl⟩ := List.cons.inj hsplit
          rw [List.append_cons] at hdistinct hfirst
          exact ⟨before, after, rfl, hdistinct, hfirst, hsame⟩

/-- No bundle is a duplicate (`firstDuplicate?`) of one before it if and only if all tags are
distinct. -/
theorem firstDuplicate?_eq_none_iff {seen bundles : List Bundle} (hseen : (tagsOf seen).Nodup) :
    firstDuplicate? seen bundles = none ↔ (tagsOf (seen ++ bundles)).Nodup := by
  induction bundles generalizing seen with
  | nil => simpa [firstDuplicate?] using hseen
  | cons b rest ih =>
    rw [firstDuplicate?]
    cases hfind : seen.find? fun s => s.locale.same b.locale with
    | some s =>
      -- the tag of the bundle stands among those seen
      have hsame : s.locale.tag = b.locale.tag := by
        simpa [Locale.same] using List.find?_some hfind
      have hnot : ¬ (tagsOf (seen ++ b :: rest)).Nodup :=
        not_nodup_of_mem (List.mem_of_find?_eq_some hfind) hsame
      simp [hnot]
    | none =>
      have hnot := find?_same_eq_none_iff.1 hfind
      have hseen' : (tagsOf (seen ++ [b])).Nodup := by
        rw [tagsOf, List.map_append]
        exact hseen.append (List.nodup_singleton _) (by simpa using hnot)
      simpa using ih hseen'

/-- Among all bundles, the first duplicate (`firstDuplicate?`) is found. -/
theorem firstDuplicate?_nil_eq_some_iff {bundles : List Bundle} {first second : Bundle} :
    firstDuplicate? [] bundles = some (first, second) ↔ FirstDuplicate bundles first second := by
  have hnil : (tagsOf []).Nodup := List.nodup_nil
  exact firstDuplicate?_eq_some_iff hnil

/-- Among all bundles, no duplicate is found (`firstDuplicate?`) if and only if all tags are
distinct. -/
theorem firstDuplicate?_nil_eq_none_iff {bundles : List Bundle} :
    firstDuplicate? [] bundles = none ↔ (tagsOf bundles).Nodup := by
  have hnil : (tagsOf []).Nodup := List.nodup_nil
  exact firstDuplicate?_eq_none_iff hnil

/-! ## Missing fallbacks -/

/-- No language lacks a bundle if and only if all that need one have it (`HasFallbacks`). -/
theorem firstWithoutFallback?_eq_none_iff {bundles : List Bundle} :
    firstWithoutFallback? bundles = none ↔ HasFallbacks bundles := by
  simp [firstWithoutFallback?, HasFallbacks, tagsOf]

/-- The language that lacks a bundle is that of the first variant without a fallback
(`firstWithoutFallback?`). -/
private theorem firstWithoutFallback?_eq (bundles : List Bundle) :
    firstWithoutFallback? bundles =
      (bundles.find? fun b =>
        b.locale.hasVariant && !bundles.any (·.locale.tag == b.locale.languageTag)).map
          (·.locale.language) := by
  rw [firstWithoutFallback?]
  -- The search for a fallback runs over all bundles, the induction over what is left of them: the
  -- search is made a function of its own before the list changes.
  generalize hhas : (fun b : Bundle => bundles.any (·.locale.tag == b.locale.languageTag)) = has
  have hcongr : ∀ b : Bundle, bundles.any (·.locale.tag == b.locale.languageTag) = has b :=
    fun b => congrFun hhas b
  simp only [hcongr]
  clear hhas hcongr
  induction bundles with
  | nil => rfl
  | cons b rest ih =>
    cases hvariant : b.locale.hasVariant with
    | false => simpa [hvariant] using ih
    | true =>
      cases hb : has b with
      | false => simp [hvariant, hb]
      | true => simpa [hvariant, hb] using ih

/-- The language that is found to lack a bundle (`firstWithoutFallback?`) is the first one that
does. -/
theorem firstWithoutFallback?_eq_some_iff {bundles : List Bundle} {language : String} :
    firstWithoutFallback? bundles = some language ↔ FirstWithoutFallback bundles language := by
  have hany (b : Bundle) : bundles.any (·.locale.tag == b.locale.languageTag) = false ↔
      b.locale.languageTag ∉ tagsOf bundles := by
    simp [tagsOf]
  rw [firstWithoutFallback?_eq, Option.map_eq_some_iff]
  constructor
  · rintro ⟨b, hfind, rfl⟩
    obtain ⟨hb, before, after, hsplit, hbefore⟩ := List.find?_eq_some_iff_append.1 hfind
    rw [Bool.and_eq_true, Bool.not_eq_true', hany] at hb
    refine ⟨before, b, after, hsplit, fun a ha hvariant => ?_, hb.1, rfl, hb.2⟩
    have hlacks := hbefore a ha
    rw [hvariant, Bool.true_and, Bool.not_not] at hlacks
    by_contra hnot
    rw [(hany a).2 hnot] at hlacks
    cases hlacks
  · rintro ⟨before, b, after, hsplit, hbefore, hvariant, rfl, hmissing⟩
    refine ⟨b, List.find?_eq_some_iff_append.2 ⟨?_, before, after, hsplit, fun a ha => ?_⟩, rfl⟩
    · rw [hvariant, (hany b).2 hmissing]
      rfl
    · cases ha' : a.locale.hasVariant with
      | false => rfl
      | true =>
        -- What stands before the first hit has a fallback, so the predicate of the search fails
        -- there.
        have hhas : ¬ (bundles.any (·.locale.tag == a.locale.languageTag)) = false :=
          fun hno => (hany a).1 hno (hbefore a ha ha')
        rw [Bool.not_eq_false] at hhas
        rw [hhas]
        rfl

/-- The tags of `variantsOf` are the `variantTags` of the specification. -/
private theorem map_tag_variantsOf (bundles : List Bundle) (language : String) :
    (variantsOf bundles language).map (·.tag) = variantTags bundles language := by
  rw [variantsOf, List.filter_map, List.map_map]
  rfl

/-- Bundles (`ofBundles`) make a collection if and only if their locales are distinct and have their
fallbacks. -/
theorem ofBundles_eq_ok_iff {directory : String} {bundles : List Bundle} {c : Collection} :
    ofBundles directory bundles = .ok c ↔
      (tagsOf bundles).Nodup ∧ HasFallbacks bundles ∧ c = ⟨directory, bundles⟩ := by
  unfold ofBundles
  rw [← firstDuplicate?_nil_eq_none_iff, ← firstWithoutFallback?_eq_none_iff]
  cases firstDuplicate? [] bundles with
  | some pair => simp
  | none =>
    cases firstWithoutFallback? bundles with
    | some language => simp
    | none => simp [eq_comm]

/-- What becomes of bundles (`ofBundles`) is a collection or one of the two refusals. -/
theorem verdict_ofBundles (directory : String) (bundles : List Bundle) :
    Verdict directory bundles (ofBundles directory bundles) := by
  rw [ofBundles]
  -- the check for two bundles of one locale comes first
  cases hduplicate : firstDuplicate? [] bundles with
  | some pair =>
    obtain ⟨first, second⟩ := pair
    exact .duplicate (firstDuplicate?_nil_eq_some_iff.1 hduplicate)
  | none =>
    have hdistinct := firstDuplicate?_nil_eq_none_iff.1 hduplicate
    cases hlanguage : firstWithoutFallback? bundles with
    | some language =>
      dsimp only
      rw [map_tag_variantsOf]
      exact .missingFallback hdistinct (firstWithoutFallback?_eq_some_iff.1 hlanguage)
    | none => exact .collection hdistinct (firstWithoutFallback?_eq_none_iff.1 hlanguage)

/-- Bundles (`ofBundles`) make a collection if and only if no two have one tag and every language
with a variant has a bundle of its own. The collection has them as they are; otherwise the first
bundle that repeats a tag is refused, wherever it stands, and if there is none, the first language
that lacks a bundle, with its variants. -/
theorem ofBundles_eq_iff_verdict (directory : String) (bundles : List Bundle) :
    ((∃ c, ofBundles directory bundles = .ok c) ↔
      (tagsOf bundles).Nodup ∧ HasFallbacks bundles) ∧
    ∀ result, ofBundles directory bundles = result ↔ Verdict directory bundles result := by
  refine ⟨?_, fun result => ⟨?_, fun h => ?_⟩⟩
  · simp only [ofBundles_eq_ok_iff, exists_and_left, exists_eq, and_true]
  · rintro rfl
    exact verdict_ofBundles directory bundles
  · -- each verdict names its cause, and the causes exclude one another by their order
    cases h with
    | collection hdistinct hfallbacks => exact ofBundles_eq_ok_iff.2 ⟨hdistinct, hfallbacks, rfl⟩
    | @duplicate first second h =>
      rw [ofBundles, firstDuplicate?_nil_eq_some_iff.2 h]
    | @missingFallback language hdistinct h =>
      rw [ofBundles, firstDuplicate?_nil_eq_none_iff.2 hdistinct]
      simp only [firstWithoutFallback?_eq_some_iff.2 h, map_tag_variantsOf]

/-- A duplicate is refused before a missing fallback, though it comes last. -/
example : ofBundles "l10n"
    [⟨"app_en_US.arb", ⟨"en", none, some "US", "en_US"⟩, []⟩,
      ⟨"app_de.arb", ⟨"de", none, none, "de"⟩, []⟩, ⟨"more_de.arb", ⟨"de", none, none, "de"⟩, []⟩] =
    .error (.duplicateLocale "de" ["app_de.arb", "more_de.arb"]) := by
  rfl

/-- Bundles (`ofBundles`) in another order make a collection if they make one in some order. -/
theorem ofBundles_of_perm {directory : String} {bundles bundles' : List Bundle} {c : Collection}
    (h : bundles.Perm bundles') (hc : ofBundles directory bundles = .ok c) :
    ofBundles directory bundles' = .ok ⟨directory, bundles'⟩ := by
  obtain ⟨hdistinct, hfallbacks, -⟩ := ofBundles_eq_ok_iff.1 hc
  have htags : (tagsOf bundles).Perm (tagsOf bundles') := h.map _
  refine ofBundles_eq_ok_iff.2 ⟨htags.nodup_iff.1 hdistinct, fun b hb hvariant => ?_, rfl⟩
  exact htags.mem_iff.1 (hfallbacks b (h.mem_iff.2 hb) hvariant)

end Collection

end Parlance
