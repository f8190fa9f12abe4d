import Parlance.Proofs.Code.Classes
import Parlance.Proofs.Collection.Consistency

/-!
# The tables of a module

A module finds the class of a locale in a table by tags, and tells whether a locale is supported
from a list of languages. The list is made of the languages and the table of the tags, so that the
two agree only because every language of a collection has a bundle of its own: then what is
supported can be loaded (`supported_of_ofBundles`).

The functions that read the tables are written as expressions (`supportedExpr`, `Plan.fromLocale`),
which are printed into the module and have values of their own (`isSupported_eq_eval`,
`run_fromLocale`).
-/

namespace Parlance.Code

open Parlance.Text

/-- The tables of a module. -/
structure Tables where
  /-- Tags with their classes, in the order in which they are written. -/
  factories : List (String × String)
  languages : List String
deriving DecidableEq, Repr

namespace Tables

/-- The line of an entry. -/
def line (entry : String × String) : String := s!"    {stringLiteral entry.1}: {entry.2},"

/-- The text of the tables. -/
def print (t : Tables) (outputClass : String) : String :=
  s!"_LOCALE_FACTORIES: dict[str, type[{outputClass}]] = " ++ "\x7b\n" ++
    "\n".intercalate (t.factories.map line) ++ "\n\x7d\n\n" ++
    "_SUPPORTED_LANGUAGES: frozenset[str] = frozenset((" ++
    tupleItems (t.languages.map stringLiteral) ++ "))"

/-- The class of a tag; of two entries with one tag the later counts. -/
def factory? (t : Tables) (tag : String) : Option String := (Assoc.ofPairs t.factories).get? tag

/-- Whether the first part of a tag is one of the languages. -/
def isSupported (t : Tables) (tag : String) : Bool :=
  t.languages.contains (Locale.firstPart (Locale.normalize tag))

/-- The class that a tag leads to: its own, or else that of its first part. -/
def fromLocale? (t : Tables) (tag : String) : Option String :=
  (t.factory? (Locale.normalize tag)).or
    (t.factory? (Locale.firstPart (Locale.normalize tag)))

/-- A tag that is among the keys has a class (`factory?`). -/
private theorem exists_factory? {t : Tables} {tag : String} (h : tag ∈ t.factories.map (·.1)) :
    ∃ c, t.factory? tag = some c :=
  Assoc.exists_get?_ofPairs h

/-- If all languages are keys, every supported tag (`isSupported`) leads to a class. -/
theorem exists_fromLocale? {t : Tables} (h : t.languages ⊆ t.factories.map (·.1)) {tag : String}
    (hsupported : t.isSupported tag = true) : ∃ c, t.fromLocale? tag = some c := by
  rw [isSupported, List.contains_iff_mem] at hsupported
  obtain ⟨c, hc⟩ := exists_factory? (h hsupported)
  cases hexact : t.factory? (Locale.normalize tag) with
  | some own => exact ⟨own, by rw [fromLocale?, hexact, Option.some_or]⟩
  | none => exact ⟨c, by rw [fromLocale?, hexact, Option.none_or, hc]⟩

end Tables

/-! ## Functions that read the tables -/

/-- What a module computes from a tag that a variable holds. -/
inductive TagExpr where
  /-- The variable. -/
  | given
  /-- The value of `e.replace("-", "_")`. -/
  | unified (e : TagExpr)
  /-- The value of `e.split("_")[0]`. -/
  | first (e : TagExpr)
deriving DecidableEq, Repr

namespace TagExpr

/-- An expression over the variable `x` as it is written. -/
def print (x : String) : TagExpr → String
  | given => x
  | unified e => e.print x ++ ".replace(\"-\", \"_\")"
  | first e => e.print x ++ ".split(\"_\")[0]"

/-- The value of an expression whose variable holds `tag`. -/
def eval (tag : String) : TagExpr → String
  | given => tag
  | unified e => Locale.normalize (e.eval tag)
  | first e => Locale.firstPart (e.eval tag)

end TagExpr

/-- What a module looks up in the table of classes. -/
inductive ClassExpr where
  /-- The class of a key, or `None`. -/
  | entry (key : TagExpr)
  /-- The value of `a or b`; a class counts as true. -/
  | either (a b : ClassExpr)
deriving DecidableEq, Repr

namespace ClassExpr

/-- A lookup over the variable `x` as it is written. -/
def print (x : String) : ClassExpr → String
  | entry key => "_LOCALE_FACTORIES.get(" ++ key.print x ++ ")"
  | either a b => a.print x ++ " or " ++ b.print x

/-- The class that a lookup finds in the tables when its variable holds `tag`. -/
def eval (t : Tables) (tag : String) : ClassExpr → Option String
  | entry key => t.factory? (key.eval tag)
  | either a b => (a.eval t tag).or (b.eval t tag)

end ClassExpr

/-- What `is_supported` looks for among the languages. -/
def supportedExpr : TagExpr := .first (.unified .given)

/-- The text of `is_supported`. -/
def supportedText : String :=
  "    def is_supported(self, locale: str) -> bool:\n" ++
    "        return " ++ supportedExpr.print "locale" ++ " in _SUPPORTED_LANGUAGES"

/-- The expression spelled out for a variable `x`. -/
private theorem print_supportedExpr (x : String) :
    supportedExpr.print x = x ++ ".replace(\"-\", \"_\")" ++ ".split(\"_\")[0]" :=
  rfl

/-- The function `from_locale`. -/
structure Lookup where
  /-- What `tag` is set to. -/
  tag : TagExpr
  /-- What `factory` is set to. -/
  factory : ClassExpr
  /-- The class that is used where no other is found, or `none` where nothing is returned. -/
  fallback : Option String
deriving DecidableEq, Repr

namespace Lookup

/-- The text of the function. Its result has the type `result`, and its documentation says that
`last` comes last. -/
def print (l : Lookup) (result last : String) : String :=
  "    def from_locale(locale: str) -> " ++ result ++ ":\n" ++
    "        \"\"\"Return the localizations for locale.\n\n" ++
    "        Lookup order: the exact locale, then its language, then " ++ last ++ ".\n" ++
    "        \"\"\"\n" ++
    "        tag = " ++ l.tag.print "locale" ++ "\n" ++
    "        factory = " ++ l.factory.print "tag" ++ "\n" ++
    "        if factory is None:\n            return " ++
      (l.fallback.map (· ++ "()")).getD "None" ++ "\n" ++
    "        return factory()"

/-- The class whose instance the function returns, or `none` where it returns `None`. -/
def run (l : Lookup) (t : Tables) (locale : String) : Option String :=
  (l.factory.eval t (l.tag.eval locale)).or l.fallback

end Lookup

/-- The function that finds the class of a locale in the module of a plan. -/
def Plan.fromLocale (plan : Plan) : Lookup where
  tag := .unified .given
  factory := .either (.entry .given) (.entry (.first .given))
  fallback := if plan.options.nullableGetter then none else (defaultClass plan).toOption

/-- The text of that function. -/
def Plan.fromLocaleText (plan : Plan) : String :=
  plan.fromLocale.print (returnType plan)
    (if plan.options.nullableGetter then "None" else plan.templateLocale.tag)

/-- A locale is supported if the value that `is_supported` computes is one of the languages. -/
theorem Tables.isSupported_eq_eval (t : Tables) (tag : String) :
    t.isSupported tag = t.languages.contains (supportedExpr.eval tag) :=
  rfl

/-- The function `from_locale` returns an instance of the class that the tables lead to, or else of
the one to fall back to. -/
theorem Plan.run_fromLocale (plan : Plan) (t : Tables) (tag : String) :
    plan.fromLocale.run t tag = (t.fromLocale? tag).or plan.fromLocale.fallback :=
  rfl

/-- The class of the delegate holds the text of `is_supported`. -/
private theorem exists_append_delegateBlock (plan : Plan) :
    ∃ before after, delegateBlock plan = before ++ supportedText ++ after := by
  have hlines : ∀ before load body : String,
      before ++ "    def is_supported(self, locale: str) -> bool:\n" ++
        "        return locale.replace(\"-\", \"_\").split(\"_\")[0] in _SUPPORTED_LANGUAGES\n\n" ++
        load ++ body = before ++ supportedText ++ ("\n\n" ++ load ++ body) := by
    intro before load body
    -- one literal of the module holds the whole line
    have hline :
        "        return locale.replace(\"-\", \"_\").split(\"_\")[0] in _SUPPORTED_LANGUAGES\n\n" =
        "        return " ++ ("locale" ++ ".replace(\"-\", \"_\")" ++ ".split(\"_\")[0]" ++
          (" in _SUPPORTED_LANGUAGES" ++ "\n\n")) := by
      decide +kernel
    unfold supportedText
    simp only [print_supportedExpr, hline, String.append_assoc]
  exact ⟨_, _, hlines _ _ _⟩

/-- The base class holds the text of `from_locale`. -/
private theorem exists_append_baseClassBlock {plan : Plan} {text : String}
    (h : baseClassBlock plan = .ok text) :
    ∃ before after, text = before ++ plan.fromLocaleText ++ after := by
  unfold baseClassBlock at h
  obtain ⟨⟨fallback, last⟩, hfallback, hmore⟩ := bind_eq_ok_iff.1 h
  obtain ⟨members, -, rfl⟩ := map_eq_ok_iff.1 hmore
  -- the lines for a tag without a class say what the expression falls back to
  have hlines : last = (if plan.options.nullableGetter then "None" else plan.templateLocale.tag) ∧
      fallback = "        if factory is None:\n            return " ++
        (plan.fromLocale.fallback.map (· ++ "()")).getD "None" := by
    rw [Plan.fromLocale]
    split at hfallback
    · next hnullable =>
      obtain ⟨rfl, rfl⟩ := Prod.mk.inj (Except.ok.inj hfallback)
      simp only [if_pos hnullable]
      exact ⟨trivial, rfl⟩
    · next hnullable =>
      obtain ⟨c, hc, heq⟩ := map_eq_ok_iff.1 hfallback
      obtain ⟨rfl, rfl⟩ := Prod.mk.inj heq
      simp only [if_neg hnullable, hc]
      exact ⟨trivial, String.append_assoc ..⟩
  obtain ⟨rfl, rfl⟩ := hlines
  have hwhole : ∀ before : String, before ++ "    def from_locale(locale: str) -> " ++
      returnType plan ++ ":\n" ++ "        \"\"\"Return the localizations for locale.\n\n" ++
      ("        Lookup order: the exact locale, then its language, then " ++
        (if plan.options.nullableGetter then "None" else plan.templateLocale.tag) ++ ".\n") ++
      "        \"\"\"\n" ++ "        tag = locale.replace(\"-\", \"_\")\n" ++
      "        factory = _LOCALE_FACTORIES.get(tag) or " ++
      "_LOCALE_FACTORIES.get(tag.split(\"_\")[0])\n" ++
      ("        if factory is None:\n            return " ++
        (plan.fromLocale.fallback.map (· ++ "()")).getD "None") ++ "\n" ++
      "        return factory()\n" ++ members =
        before ++ plan.fromLocaleText ++ ("\n" ++ members) := by
    intro before
    -- the literals of the module hold whole lines
    have hset : "        tag = locale.replace(\"-\", \"_\")\n" =
        "        tag = " ++ ("locale" ++ ".replace(\"-\", \"_\")" ++ "\n") := by
      decide +kernel
    have hfirst : "        factory = _LOCALE_FACTORIES.get(tag) or " =
        "        factory = " ++ ("_LOCALE_FACTORIES.get(" ++ ("tag" ++ (")" ++ " or "))) := by
      decide +kernel
    have hsecond : "_LOCALE_FACTORIES.get(tag.split(\"_\")[0])\n" =
        "_LOCALE_FACTORIES.get(" ++ ("tag" ++ ".split(\"_\")[0]" ++ (")" ++ "\n")) := by
      decide +kernel
    have hreturn : "        return factory()\n" = "        return factory()" ++ "\n" := by
      decide +kernel
    unfold Plan.fromLocaleText Lookup.print
    simp only [hset, hfirst, hsecond, hreturn, String.append_assoc]
    rfl
  exact ⟨_, _, hwhole _⟩

/-- The text of a module holds the functions that read its tables (`supportedText`,
`fromLocaleText`). -/
private theorem exists_append_functions_of_emit {plan : Plan} {text : String}
    (hemit : emit plan = .ok text) :
    (∃ before after, text = before ++ supportedText ++ after) ∧
    ∃ before after, text = before ++ plan.fromLocaleText ++ after := by
  obtain ⟨bs, hblocks, -⟩ := map_eq_ok_iff.1 hemit
  obtain ⟨base, classes, factories, hbase, -, -, hbs⟩ := parts_of_blocks hblocks
  -- one function is in the block of the delegate, and the other in that of the base class
  constructor
  · obtain ⟨before, after, hdelegate⟩ := exists_append_delegateBlock plan
    have hmem : before ++ supportedText ++ after ∈ bs := by simp [hbs, ← hdelegate]
    have hlast : supportedText.toList.getLast? = some 'S' := by decide +kernel
    exact exists_append_of_block hemit hblocks hmem hlast (by decide)
  · obtain ⟨before, after, htext⟩ := exists_append_baseClassBlock hbase
    have hmem : before ++ plan.fromLocaleText ++ after ∈ bs := by simp [hbs, ← htext]
    have hend : "        return factory()".toList.getLast? = some ')' := rfl
    have hlast : plan.fromLocaleText.toList.getLast? = some ')' := getLast?_toList_append hend _
    exact exists_append_of_block hemit hblocks hmem hlast (by decide)

/-- The tables of the module of a plan. -/
def Plan.tables (plan : Plan) : Tables :=
  ⟨plan.locales.map fun l => (l.tag, (plan.className? l).getD ""), languagesOf plan.locales⟩

/-- The languages (`languagesOf`) that a module lists are those of its locales. -/
theorem mem_languagesOf {locales : List Locale} {language : String} :
    language ∈ languagesOf locales ↔ ∃ l ∈ locales, l.language = language := by
  simp [languagesOf]

section

variable {entries : List Entry} {locales : List Locale} {templateLocale : Locale}
  {options : ModuleOptions} {plan : Plan}
  (h : Plan.make entries locales templateLocale options = .ok plan)

include h

/-- The keys of the table (`tables`) are the tags of the locales. -/
private theorem keys_tables_of_make : plan.tables.factories.map (·.1) = locales.map (·.tag) := by
  obtain ⟨-, -, -, hlocales, -⟩ := eq_of_make h
  rw [Plan.tables, hlocales, List.map_map]
  rfl

/-- The block of the tables (`factoriesBlock`) is their text. -/
theorem factoriesBlock_of_make :
    factoriesBlock plan = .ok (plan.tables.print options.outputClass) := by
  obtain ⟨-, -, -, hlocales, -⟩ := eq_of_make h
  obtain ⟨hoptions, -, -⟩ := options_of_make h
  have hentries : plan.locales.mapM (factoryEntry plan) =
      .ok (plan.tables.factories.map Tables.line) := by
    -- every locale of the plan has a class
    rw [Plan.tables, List.map_map, mapM_eq_ok_iff, List.forall₂_map_right_iff, List.forall₂_same]
    intro l hl
    rw [factoryEntry, Function.comp_apply, className?_of_make h (hlocales ▸ hl)]
    rfl
  rw [factoriesBlock, hentries, hoptions]
  rfl

/-- The text of a module holds its tables (`tables`). -/
private theorem exists_append_tables_of_emit {text : String} (hemit : emit plan = .ok text) :
    ∃ before after, text = before ++ plan.tables.print options.outputClass ++ after := by
  obtain ⟨bs, hblocks, -⟩ := map_eq_ok_iff.1 hemit
  have hmem : "" ++ plan.tables.print options.outputClass ++ "" ∈ bs := by
    obtain ⟨base, classes, factories, -, -, hfactories, rfl⟩ := parts_of_blocks hblocks
    cases hfactories.symm.trans (factoriesBlock_of_make h)
    simp
  have hclose : "))".toList.getLast? = some ')' := rfl
  have hlast : (plan.tables.print options.outputClass).toList.getLast? = some ')' :=
    getLast?_toList_append hclose _
  exact exists_append_of_block hemit hblocks hmem hlast (by decide)

/-- The tag of a locale (`fromLocale?`) leads to the class of the locale. -/
private theorem fromLocale?_of_make {l : Locale} (hl : l ∈ locales) (htag : l.OfTag) :
    plan.tables.fromLocale? l.tag = some (options.outputClass ++ l.camelCase) := by
  obtain ⟨-, -, -, hlocales, -⟩ := eq_of_make h
  have hkey : l.tag ∈ plan.tables.factories.map (·.1) :=
    keys_tables_of_make h ▸ List.mem_map_of_mem hl
  obtain ⟨c, hc⟩ := Tables.exists_factory? hkey
  rw [Tables.fromLocale?, htag.normal, hc, Option.some_or]
  -- the entry may be that of another locale of the tag
  obtain ⟨other, hother, heq⟩ := List.mem_map.1 (Assoc.mem_of_get?_ofPairs hc)
  obtain ⟨hsame, rfl⟩ := Prod.mk.inj heq
  rw [className?_of_make h (hlocales ▸ hother), Option.getD_some, camelCase_congr hsame]

end

/-- In a collection (`ofBundles`) every language is the tag of a locale. -/
private theorem exists_tag_eq_language {directory : String} {bundles : List Bundle} {c : Collection}
    (hc : Collection.ofBundles directory bundles = .ok c)
    (htags : ∀ b ∈ bundles, b.locale.OfTag) {l : Locale} (hl : l ∈ c.locales) :
    l.language ∈ c.locales.map (·.tag) := by
  obtain ⟨-, hfallbacks, rfl⟩ := Collection.ofBundles_eq_ok_iff.1 hc
  obtain ⟨b, hb, rfl⟩ := List.mem_map.1 hl
  cases hvariant : b.locale.hasVariant with
  | false =>
    rw [← (htags b hb).bare hvariant]
    exact List.mem_map_of_mem hl
  | true =>
    obtain ⟨base, hbase, heq⟩ := List.mem_map.1 (hfallbacks b hb hvariant)
    exact List.mem_map.2 ⟨base.locale, List.mem_map_of_mem hbase, heq⟩

/-- What a module calls supported can be loaded. In the module of a collection, whose locales are
read from tags and may be written in any order, every listed language is a key of the table of
classes. So each tag that is supported leads to a class, and the tag of a locale to the class of
that locale. Whether a tag is supported and where it leads is what the functions `is_supported` and
`from_locale` of the text compute from the tables of the text. -/
theorem supported_of_ofBundles {directory : String} {bundles : List Bundle} {c : Collection}
    (hc : Collection.ofBundles directory bundles = .ok c)
    (hparsed : ∀ b ∈ bundles, ∃ tag, Locale.parse tag = .ok b.locale)
    {entries : List Entry} {locales : List Locale} (hperm : locales.Perm c.locales)
    {templateLocale : Locale} {options : ModuleOptions} {plan : Plan}
    (hplan : Plan.make entries locales templateLocale options = .ok plan) :
    factoriesBlock plan = .ok (plan.tables.print options.outputClass) ∧
    (∀ text, emit plan = .ok text →
      (∃ before after, text = before ++ plan.tables.print options.outputClass ++ after) ∧
      (∃ before after, text = before ++ supportedText ++ after) ∧
      ∃ before after, text = before ++ plan.fromLocaleText ++ after) ∧
    (∀ tag, plan.tables.isSupported tag = plan.tables.languages.contains (supportedExpr.eval tag)) ∧
    (∀ tag, plan.fromLocale.run plan.tables tag =
      (plan.tables.fromLocale? tag).or plan.fromLocale.fallback) ∧
    (∀ language ∈ plan.tables.languages, language ∈ plan.tables.factories.map (·.1)) ∧
    (∀ tag, plan.tables.isSupported tag = true → ∃ name, plan.tables.fromLocale? tag = some name) ∧
    ∀ l ∈ locales, plan.tables.isSupported l.tag = true ∧
      plan.tables.fromLocale? l.tag = plan.className? l ∧
      plan.className? l = some (options.outputClass ++ l.camelCase) := by
  obtain ⟨-, -, -, hlocales, -⟩ := eq_of_make hplan
  have htags : ∀ b ∈ bundles, b.locale.OfTag := fun b hb => by
    obtain ⟨tag, htag⟩ := hparsed b hb
    exact Locale.ofTag_of_parse htag
  have htag : ∀ l ∈ locales, l.OfTag := fun l hl => by
    obtain ⟨-, -, rfl⟩ := Collection.ofBundles_eq_ok_iff.1 hc
    obtain ⟨b, hb, rfl⟩ := List.mem_map.1 (hperm.mem_iff.1 hl)
    exact htags b hb
  -- the languages are those of the locales, and the keys their tags
  have hlanguages : plan.tables.languages ⊆ plan.tables.factories.map (·.1) := by
    intro language hlanguage
    obtain ⟨l, hl, rfl⟩ := mem_languagesOf.1 hlanguage
    rw [keys_tables_of_make hplan, (hperm.map _).mem_iff]
    exact exists_tag_eq_language hc htags (hperm.mem_iff.1 (hlocales ▸ hl))
  refine ⟨factoriesBlock_of_make hplan, fun text hemit =>
      ⟨exists_append_tables_of_emit hplan hemit, exists_append_functions_of_emit hemit⟩,
    plan.tables.isSupported_eq_eval, plan.run_fromLocale plan.tables, hlanguages,
    fun tag => Tables.exists_fromLocale? hlanguages,
    fun l hl => ⟨?_, ?_, className?_of_make hplan hl⟩⟩
  · rw [Tables.isSupported, (htag l hl).normal, (htag l hl).language, List.contains_iff_mem]
    exact mem_languagesOf.2 ⟨l, hlocales ▸ hl, rfl⟩
  · rw [fromLocale?_of_make hplan hl (htag l hl), className?_of_make hplan hl]

/-- Bundles of a language and of two variants of it. -/
def englishBundles : List Bundle :=
  [⟨"l10n/app_en.arb", ⟨"en", none, none, "en"⟩, []⟩,
   ⟨"l10n/app_en_GB.arb", ⟨"en", none, some "GB", "en_GB"⟩, []⟩,
   ⟨"l10n/app_en_Latn_US.arb", ⟨"en", some "Latn", some "US", "en_Latn_US"⟩, []⟩]

/-- Their locales with the variants first. -/
def englishLocales : List Locale := (englishBundles.map (·.locale)).reverse

/-- A module for `en` and two variants of it, whose classes stand in another order than the bundles.
-/
theorem supported_of_ofBundles_english :
    Collection.ofBundles "l10n" englishBundles = .ok ⟨"l10n", englishBundles⟩ ∧
    (∀ b ∈ englishBundles, ∃ tag, Locale.parse tag = .ok b.locale) ∧
    englishLocales.Perm (englishBundles.map (·.locale)) ∧
    ∃ plan, Plan.make [] englishLocales ⟨"en", none, none, "en"⟩ .standard = .ok plan ∧
      factoriesBlock plan = .ok (plan.tables.print ModuleOptions.standard.outputClass) ∧
      (∀ text, emit plan = .ok text →
        (∃ before after, text =
          before ++ plan.tables.print ModuleOptions.standard.outputClass ++ after) ∧
        (∃ before after, text = before ++ supportedText ++ after) ∧
        ∃ before after, text = before ++ plan.fromLocaleText ++ after) ∧
      (∀ tag, plan.tables.isSupported tag =
        plan.tables.languages.contains (supportedExpr.eval tag)) ∧
      (∀ tag, plan.fromLocale.run plan.tables tag =
        (plan.tables.fromLocale? tag).or plan.fromLocale.fallback) ∧
      (∀ language ∈ plan.tables.languages, language ∈ plan.tables.factories.map (·.1)) ∧
      (∀ tag, plan.tables.isSupported tag = true →
        ∃ name, plan.tables.fromLocale? tag = some name) ∧
      ∀ l ∈ englishLocales, plan.tables.isSupported l.tag = true ∧
        plan.tables.fromLocale? l.tag = plan.className? l ∧
        plan.className? l = some (ModuleOptions.standard.outputClass ++ l.camelCase) := by
  have hc : Collection.ofBundles "l10n" englishBundles = .ok ⟨"l10n", englishBundles⟩ := by
    rfl
  have hparsed : ∀ b ∈ englishBundles, ∃ tag, Locale.parse tag = .ok b.locale := by
    intro b hb
    refine ⟨b.locale.tag, ?_⟩
    revert b
    decide
  -- the locales are in the other order
  have hperm : englishLocales.Perm (englishBundles.map (·.locale)) := List.reverse_perm _
  have hmake : (Plan.make [] englishLocales ⟨"en", none, none, "en"⟩ .standard).map
      (fun plan => plan.members.length) = .ok 0 := by
    decide +kernel
  obtain ⟨plan, hplan, -⟩ := map_eq_ok_iff.1 hmake
  exact ⟨hc, hparsed, hperm, plan, hplan, supported_of_ofBundles hc hparsed hperm hplan⟩

end Parlance.Code
