import Parlance.Proofs.Code.Documentation
import Parlance.Proofs.Code.Emission
import Parlance.Proofs.Code.Names
import Parlance.Proofs.Code.Tables

/-!
# The skeleton of a module

Around its accessors a module has classes, tables and functions, with the tags of the locales in
their documentation, defaults and entries. Some of the tags are written as they are. The skeleton is
well named if its classes are variables, no identifier is bound twice, and each text that holds a
tag reads back as that text. The texts do so if the classes of the locales are identifiers, for a
tag with a quote, a backslash or a control character has it in the name of its class too
(`isPlain_tag`). So the names alone decide, but for a template's locale that is none of the locales
(`wellNamed_iff`).
-/

namespace Parlance.Code

open Parlance.Text

/-! ## Plain names and tags -/

/-- The control characters that follow ASCII stand in no identifier (`isIdentifierPart`). -/
private theorem isIdentifierPart_of_beyond {c : Char} (hascii : ¬ c.toNat < 128)
    (hc : c.toNat < 0xA0) : isIdentifierPart c = false := by
  have hoff : (identifierStartRanges ++ identifierExtendRanges).all
      (fun r => r.2 < 128 || 0xA0 ≤ r.1) = true := by
    decide +kernel
  rw [isIdentifierPart, if_neg hascii, inRanges, inRanges, ← List.any_append, List.any_eq_false]
  intro r hr hwithin
  have hr := List.all_eq_true.1 hoff r hr
  simp only [Bool.and_eq_true, Bool.or_eq_true, decide_eq_true_eq] at hr hwithin
  omega

/-- A character that is not plain (`isPlain`) is its own form in upper and lower case, and stands in
no identifier. -/
private theorem special_of_not_plain {c : Char} (h : isPlain c = false) :
    c.toNat < 0xA0 ∧ isFixed c = true ∧ c ≠ '_' ∧ isIdentifierPart c = false ∧ c.isLower = false :=
    by
  -- the quote and the backslash are ASCII, and control characters end before 0xA0
  have hlow : c.toNat < 0xA0 := by
    by_contra hhigh
    have hquote : c ≠ '"' := by
      rintro rfl
      exact hhigh (by decide)
    have hslash : c ≠ '\\' := by
      rintro rfl
      exact hhigh (by decide)
    have hcontrol : isControl c = false := by
      simp only [isControl, Bool.or_eq_false_iff, Bool.and_eq_false_iff, decide_eq_false_iff_not]
      omega
    simp [isPlain, hquote, hslash, hcontrol] at h
  refine ⟨hlow, ?_⟩
  by_cases hascii : c.toNat < 128
  · revert h
    refine of_toNat_lt (P := fun c => isPlain c = false → isFixed c = true ∧ c ≠ '_' ∧
      isIdentifierPart c = false ∧ c.isLower = false) ?_ hascii
    decide +kernel
  · have hunderscore : c ≠ '_' := by
      rintro rfl
      exact hascii (by decide)
    have hcase : c.isLower = false := Bool.eq_false_iff.2 fun hlower =>
      hascii (ascii_of_isLower hlower)
    exact ⟨isFixed_of_beyond hascii hlow, hunderscore, isIdentifierPart_of_beyond hascii hlow,
      hcase⟩

/-- The characters of an identifier are plain (`isPlain`). -/
private theorem isPlain_of_identifier {s : String} (h : isIdentifier s = true) :
    ∀ c ∈ s.toList, isPlain c = true := by
  intro c hc
  rw [← Bool.not_eq_false]
  intro hspecial
  obtain ⟨-, -, -, hpart, -⟩ := special_of_not_plain hspecial
  rw [isIdentifierPart_of_mem h c hc] at hpart
  cases hpart

/-- A tag is plain (`isPlain`) if the class of its locale is an identifier. -/
theorem isPlain_tag {s : String} {l : Locale} (h : isIdentifier (s ++ l.camelCase) = true) :
    ∀ c ∈ l.tag.toList, isPlain c = true := by
  intro c hc
  rw [← Bool.not_eq_false]
  intro hspecial
  obtain ⟨-, hfixed, hunderscore, hpart, -⟩ := special_of_not_plain hspecial
  -- the character stands in the class too
  have hclass : c ∈ (s ++ l.camelCase).toList := by
    rw [String.toList_append]
    exact List.mem_append_right _ (Locale.mem_camelCase_of_fixed hfixed hunderscore hc)
  rw [isIdentifierPart_of_mem h c hclass] at hpart
  cases hpart

/-- The name of the function that looks messages up is plain (`isPlain`) if the base class is an
identifier. -/
private theorem isPlain_lookupFunction {plan : Plan}
    (h : isIdentifier plan.options.outputClass = true) :
    ∀ c ∈ plan.lookupFunction.toList, isPlain c = true := by
  intro c hc
  rw [Plan.lookupFunction, String.toList_append, List.mem_append] at hc
  rcases hc with hprefix | hname
  · have hall : "lookup_".toList.all isPlain = true := by decide
    exact List.all_eq_true.1 hall c hprefix
  · rw [← Bool.not_eq_false]
    intro hspecial
    obtain ⟨hlow, -, hunderscore, -, hnotLower⟩ := special_of_not_plain hspecial
    rw [snakeCase, String.toList_ofList, snakeChars, lowerChars] at hname
    -- lower case adds small letters only, and the words are taken apart by underscores
    rcases low_of_mem_lowerFrom hname hlow with hlower | hwords
    · rw [hnotLower] at hlower
      cases hlower
    · rcases mem_of_mem_splitWords hwords with heq | hmem
      · exact hunderscore heq
      · rw [isPlain_of_identifier h c hmem] at hspecial
        cases hspecial

/-! ## Texts with tags -/

/-- What the documentation of the base class says. -/
def baseText (plan : Plan) : String :=
  "Localized messages of this application.\n\n" ++
  s!"    Instances are obtained with {plan.options.outputClass}.from_locale() or\n" ++
  s!"    {plan.lookupFunction}(). Supported locales: " ++
  ", ".intercalate (plan.locales.map (·.tag)) ++ ".\n" ++ "    "

/-- What stands in the documentation of the lookup in front of the locale to fall back to. -/
def lookupOpening : String :=
  "Return the localizations for locale.\n\n" ++
  "        Lookup order: the exact locale, then its language, then "

/-- What stands at the end of the documentation of the lookup after the locale to fall back to. -/
def lookupEnding : String := ".\n" ++ "        "

/-- What the documentation of the lookup says. -/
def lookupText (plan : Plan) : String :=
  lookupOpening ++
  ((if plan.options.nullableGetter then "None" else plan.templateLocale.tag) ++ lookupEnding)

/-- What the documentation of the class of a locale says. -/
def localeText (l : Locale) : String := "The translations for " ++ l.tag ++ "."

/-- The default of the name of a locale in its class. -/
def localeDefault (l : Locale) : String := "\"" ++ l.tag ++ "\""

/-- Whether a tag at the end of the documentation of the lookup reads back. -/
def FitsLookup (tag : String) : Prop :=
  ∀ after, readDoc ((tag ++ lookupEnding).toList ++ '"' :: '"' :: '"' :: after) =
    some ((tag ++ lookupEnding).toList, after)

/-- Whether the classes of a module are variables, no two names that it binds are one identifier,
and every text that holds the tag of a locale denotes exactly what it says and ends where its
literal ends: the documentation of the base class, of the lookup, of the class of each locale and of
each accessor, the default in the class of each locale, and the entries of the tables. -/
structure Plan.WellNamed (plan : Plan) : Prop where
  classes : ∀ name ∈ plan.classes, IsVariable name
  bound : (plan.boundNames.map nfkc).Nodup
  base : Documents (inQuotes (baseText plan)) (baseText plan)
  lookup : Documents (inQuotes (lookupText plan)) (lookupText plan)
  locale : ∀ l ∈ plan.locales, Documents (inQuotes (localeText l)) (localeText l)
  default : ∀ l ∈ plan.locales, Closed (localeDefault l) [.text l.tag]
  entry : ∀ l ∈ plan.locales, Closed (stringLiteral l.tag) [.text l.tag]
  accessor : ∀ m ∈ plan.members, ∃ literal,
    docString bodyIndent (documentation plan m.entry).1 (documentation plan m.entry).2 =
      bodyIndent ++ literal ∧
    Documents literal
      (docText bodyIndent (documentation plan m.entry).1 (documentation plan m.entry).2)

/-- The documentation (`Documents`) of the class of a locale reads back if its tag is plain. -/
private theorem documents_localeText {l : Locale} (h : ∀ c ∈ l.tag.toList, isPlain c = true) :
    Documents (inQuotes (localeText l)) (localeText l) := by
  have htag := all_isWritten_of_plain h
  have hopening : "The translations for ".toList.all isWritten = true := by decide +kernel
  have hend : ".".toList.all isWritten = true := by decide
  refine documents_inQuotes ?_
  unfold localeText
  simp only [String.toList_append, List.all_append, hopening, htag, hend, Bool.and_self]

/-- The default of the name of a locale (`localeDefault`) is the literal of its tag, if that is
plain. -/
private theorem closed_localeDefault {l : Locale} (h : ∀ c ∈ l.tag.toList, isPlain c = true) :
    Closed (localeDefault l) [.text l.tag] := by
  rw [localeDefault, ← stringLiteral_of_plain h]
  exact closed_stringLiteral l.tag

/-- The documentation (`Documents`) of the lookup reads back if and only if its end does. -/
private theorem documents_lookupText_iff {plan : Plan} :
    Documents (inQuotes (lookupText plan)) (lookupText plan) ↔
      FitsLookup (if plan.options.nullableGetter then "None" else plan.templateLocale.tag) := by
  have hopening : lookupOpening.toList.all isWritten = true := by decide +kernel
  exact documents_inQuotes_append_iff hopening

/-- A plain tag (`isPlain`) reads back at the end of the documentation of the lookup. -/
private theorem fitsLookup_of_plain {tag : String} (h : ∀ c ∈ tag.toList, isPlain c = true) :
    FitsLookup tag := by
  intro after
  have hall : (tag ++ lookupEnding).toList.all isWritten = true := by
    have hend : lookupEnding.toList.all isWritten = true := by decide +kernel
    rw [String.toList_append, List.all_append, all_isWritten_of_plain h, hend]
    rfl
  rw [stands_of_written hall, readDoc_close, Option.map_some, addRead, List.append_nil]

/-! ## Where the texts stand -/

/-- The text of the class of a locale, up to the accessors. -/
def localeClassText (plan : Plan) (l : Locale) (members : String) : String :=
  "class " ++ (plan.className? l).getD "" ++ s!"({plan.options.outputClass}):\n" ++ "    " ++
    inQuotes (localeText l) ++ "\n\n" ++
    "    def __init__(self, locale_name: str = " ++ localeDefault l ++ ") -> None:\n" ++
    "        super().__init__(locale_name)\n" ++ members

/-- The text of the base class, up to what stands in for locales that are not supported and the
accessors. -/
def baseClassText (plan : Plan) (fallback members : String) : String :=
  s!"class {plan.options.outputClass}(abc.ABC):\n" ++ "    " ++ inQuotes (baseText plan) ++
    "\n\n" ++
    "    SUPPORTED_LOCALES: tuple[str, ...] = (" ++
    tupleItems ((plan.locales.map (·.tag)).map stringLiteral) ++ ")\n\n" ++
    "    def __init__(self, locale_name: str) -> None:\n" ++
    "        self.locale_name = locale_name\n\n" ++
    "    @staticmethod\n" ++
    "    def from_locale(locale: str) -> " ++ returnType plan ++ ":\n" ++ "        " ++
    inQuotes (lookupText plan) ++ "\n" ++
    "        tag = locale.replace(\"-\", \"_\")\n" ++
    "        factory = _LOCALE_FACTORIES.get(tag) or " ++
    "_LOCALE_FACTORIES.get(tag.split(\"_\")[0])\n" ++
    fallback ++ "\n" ++ "        return factory()\n" ++ members

/-- The block of a locale is `localeClassText` with some members. -/
private theorem layout_localeClassBlock {plan : Plan} {l : Locale} {text : String}
    (h : localeClassBlock plan l = .ok text) : ∃ members, text = localeClassText plan l members :=
    by
  unfold localeClassBlock at h
  obtain ⟨members, -, hmore⟩ := bind_eq_ok_iff.1 h
  split at hmore
  · cases hmore
  · next name hname =>
    refine ⟨members, ?_⟩
    rw [← Except.ok.inj hmore]
    -- the quotes share a literal with what stands next to them
    have hopening : "    \"\"\"The translations for " =
        "    " ++ ("\"\"\"" ++ "The translations for ") := rfl
    have hclosing : ".\"\"\"\n\n" = "." ++ ("\"\"\"" ++ "\n\n") := rfl
    have hdefault : "    def __init__(self, locale_name: str = \"" =
        "    def __init__(self, locale_name: str = " ++ "\"" := rfl
    have hend : "\") -> None:\n" = "\"" ++ ") -> None:\n" := rfl
    unfold localeClassText inQuotes localeText localeDefault
    simp only [toString, hname, Option.getD_some, hopening, hclosing, hdefault, hend,
      String.append_assoc]

/-- The blocks of all locales (`localeClassBlocks`) are, in order. -/
private theorem layout_localeClassBlocks {plan : Plan} {locales : List Locale} {texts : List String}
    (h : List.Forall₂ (fun l text => localeClassBlock plan l = .ok text) locales texts) :
    ∃ members, members.length = locales.length ∧
      texts = List.zipWith (localeClassText plan) locales members := by
  induction h with
  | nil => exact ⟨[], rfl, rfl⟩
  | cons htext _ ih =>
    obtain ⟨first, rfl⟩ := layout_localeClassBlock htext
    obtain ⟨members, hlength, rfl⟩ := ih
    exact ⟨first :: members, congrArg (· + 1) hlength, rfl⟩

/-- The block of the base class is `baseClassText` with some members. -/
private theorem layout_baseClassBlock {plan : Plan} {text : String}
    (h : baseClassBlock plan = .ok text) :
    ∃ fallback members, text = baseClassText plan fallback members := by
  unfold baseClassBlock at h
  obtain ⟨⟨fallback, name⟩, hfallback, hmore⟩ := bind_eq_ok_iff.1 h
  obtain ⟨members, -, htext⟩ := map_eq_ok_iff.1 hmore
  have hname : name = if plan.options.nullableGetter then "None" else plan.templateLocale.tag := by
    split at hfallback
    · next hnullable =>
      rw [if_pos hnullable]
      exact (Prod.mk.inj (Except.ok.inj hfallback)).2.symm
    · next hnullable =>
      obtain ⟨c, -, heq⟩ := map_eq_ok_iff.1 hfallback
      rw [if_neg hnullable]
      exact (Prod.mk.inj heq).2.symm
  refine ⟨fallback, members, ?_⟩
  rw [← htext]
  -- the quotes share a literal with what stands next to them
  have hopening : "    \"\"\"Localized messages of this application.\n\n" =
      "    " ++ ("\"\"\"" ++ "Localized messages of this application.\n\n") := rfl
  have hclosing : "    \"\"\"\n\n" = "    " ++ ("\"\"\"" ++ "\n\n") := rfl
  have hlookup : "        \"\"\"Return the localizations for locale.\n\n" =
      "        " ++ ("\"\"\"" ++ "Return the localizations for locale.\n\n") := rfl
  have hend : "        \"\"\"\n" = "        " ++ ("\"\"\"" ++ "\n") := rfl
  unfold baseClassText inQuotes baseText lookupText lookupOpening lookupEnding
  simp only [toString, ← hname, hopening, hclosing, hlookup, hend, String.append_assoc]

section

variable {entries : List Entry} {locales : List Locale} {templateLocale : Locale}
  {options : ModuleOptions} {plan : Plan}
  (h : Plan.make entries locales templateLocale options = .ok plan)

include h

/-- The blocks (`blocks`) of a module: every place where a tag is written as it is stands in them.
-/
theorem layout_blocks {bs : List String} (hblocks : blocks plan = .ok bs) :
    ∃ fallback members localeMembers, localeMembers.length = plan.locales.length ∧
      bs = headerBlock plan :: baseClassText plan fallback members ::
        (List.zipWith (localeClassText plan) plan.locales localeMembers ++
          [plan.tables.print plan.options.outputClass, delegateBlock plan, footerBlock plan]) := by
  obtain ⟨hoptions, -, -⟩ := options_of_make h
  obtain ⟨base, classes, factories, hbase, hclasses, hfactories, rfl⟩ := parts_of_blocks hblocks
  obtain ⟨fallback, members, rfl⟩ := layout_baseClassBlock hbase
  obtain ⟨localeMembers, hlength, rfl⟩ := layout_localeClassBlocks hclasses
  obtain rfl := Except.ok.inj (hfactories.symm.trans (factoriesBlock_of_make h))
  refine ⟨fallback, members, localeMembers, hlength, ?_⟩
  rw [hoptions]

/-! ## Names decide -/

/-- The documentation (`Documents`) of the base class reads back if the base class is an identifier
and the tags are plain. -/
private theorem documents_baseText_of_make
    (hplain : ∀ l ∈ plan.locales, ∀ c ∈ l.tag.toList, isPlain c = true) :
    Documents (inQuotes (baseText plan)) (baseText plan) := by
  obtain ⟨hoptions, -, hname⟩ := options_of_make h
  rw [← hoptions] at hname
  have hbase := all_isWritten_of_plain (isPlain_of_identifier hname)
  have hlookup := all_isWritten_of_plain (isPlain_lookupFunction hname)
  have htags : (", ".intercalate (plan.locales.map (·.tag))).toList.all isWritten = true := by
    refine all_isWritten_intercalate (by decide) (List.forall_mem_map.2 fun l hl => ?_)
    exact all_isWritten_of_plain (hplain l hl)
  refine documents_inQuotes ?_
  -- the parts of the text that are the same in every module
  have hopening : "Localized messages of this application.\n\n".toList.all isWritten = true := by
    decide +kernel
  have hobtained : "    Instances are obtained with ".toList.all isWritten = true := by
    decide +kernel
  have hfrom : ".from_locale() or\n".toList.all isWritten = true := by decide +kernel
  have hindent : "    ".toList.all isWritten = true := by decide +kernel
  have hsupported : "(). Supported locales: ".toList.all isWritten = true := by decide +kernel
  have hend : ".\n".toList.all isWritten = true := by decide +kernel
  unfold baseText
  simp only [toString, String.toList_append, List.all_append, hopening, hobtained, hbase, hfrom,
    hindent, hlookup, hsupported, htags, hend, Bool.and_self]

/-- The documentation (`Documents`) of the lookup reads back if and only if it falls back to nothing
or to a tag that does. -/
private theorem documents_lookupText_iff_of_make :
    Documents (inQuotes (lookupText plan)) (lookupText plan) ↔
      (options.nullableGetter = false → FitsLookup templateLocale.tag) := by
  obtain ⟨hoptions, htemplate, -⟩ := options_of_make h
  rw [documents_lookupText_iff, hoptions, htemplate]
  cases options.nullableGetter with
  | true =>
    have hnone : "None".toList.all isPlain = true := by decide
    have hfits := fitsLookup_of_plain (List.all_eq_true.1 hnone)
    exact ⟨fun _ hfalse => absurd hfalse (by decide), fun _ => hfits⟩
  | false => exact ⟨fun hfits _ => hfits, fun hfits => hfits rfl⟩

/-- The skeleton is well named (`WellNamed`) if and only if the names are distinct identifiers and
the lookup falls back to nothing or to a tag that reads back in its documentation. -/
private theorem wellNamed_iff_of_make (htags : ∀ l ∈ locales, l.OfTag) :
    plan.WellNamed ↔
      plan.NamesApart ∧ (options.nullableGetter = false → FitsLookup templateLocale.tag) := by
  rw [← documents_lookupText_iff_of_make h]
  constructor
  · intro hnamed
    exact ⟨⟨hnamed.classes, hnamed.bound⟩, hnamed.lookup⟩
  · rintro ⟨hapart, hlookup⟩
    have hfit := namesFit_of_namesApart h htags hapart
    -- what the classes of the locales are made of is all that the tags are made of
    have hplain : ∀ l ∈ plan.locales, ∀ c ∈ l.tag.toList, isPlain c = true := fun l hl =>
      isPlain_tag (hfit.identifiers l hl)
    have hindent : bodyIndent.toList.all isPlain = true := by decide +kernel
    exact {
      classes := hapart.classes
      bound := hapart.bound
      base := documents_baseText_of_make h hplain
      lookup := hlookup
      locale := fun l hl => documents_localeText (hplain l hl)
      default := fun l hl => closed_localeDefault (hplain l hl)
      entry := fun l _ => closed_stringLiteral l.tag
      accessor := fun m _ => documents_docString (List.all_eq_true.1 hindent) _ _ }

/-- The skeleton of a module whose locales are read from tags is well named (`WellNamed`) if and
only if its names are distinct identifiers and, where the lookup falls back to the locale of the
template, the tag of that locale reads back. The latter goes without saying if the template's locale
is one of the locales. Names are distinct identifiers only if they fit as they are spelled, which is
enough if they are of ASCII. -/
theorem wellNamed_iff (hparsed : ∀ l ∈ locales, ∃ tag, Locale.parse tag = .ok l) :
    (plan.WellNamed ↔
      plan.NamesApart ∧ (options.nullableGetter = false → FitsLookup templateLocale.tag)) ∧
    (templateLocale ∈ locales → (plan.WellNamed ↔ plan.NamesApart)) ∧
    (plan.NamesApart → plan.NamesFit) ∧
    ((∀ name ∈ plan.boundNames, IsAscii name) → (plan.NamesApart ↔ plan.NamesFit)) ∧
    ∀ bs, blocks plan = .ok bs → ∃ fallback members localeMembers,
      localeMembers.length = plan.locales.length ∧
      bs = headerBlock plan :: baseClassText plan fallback members ::
        (List.zipWith (localeClassText plan) plan.locales localeMembers ++
          [plan.tables.print plan.options.outputClass, delegateBlock plan, footerBlock plan]) := by
  obtain ⟨-, -, -, hlocales, -⟩ := eq_of_make h
  have htags : ∀ l ∈ locales, l.OfTag := fun l hl => by
    obtain ⟨tag, htag⟩ := hparsed l hl
    exact Locale.ofTag_of_parse htag
  refine ⟨wellNamed_iff_of_make h htags, fun htemplate => ?_, namesFit_of_namesApart h htags,
    namesApart_iff_of_ascii h htags, fun bs => layout_blocks h⟩
  -- the tag of a locale that has a class is plain, so it ends no literal
  rw [wellNamed_iff_of_make h htags, and_iff_left_iff_imp]
  intro hapart _
  have hfit := namesFit_of_namesApart h htags hapart
  exact fitsLookup_of_plain (isPlain_tag (hfit.identifiers templateLocale (hlocales ▸ htemplate)))

end

/-- Two locales and a base class (`guestsModule`), all of whose names are of ASCII. -/
theorem wellNamed_iff_guests :
    (∀ l ∈ guestsCollection.locales, ∃ tag, Locale.parse tag = .ok l) ∧
    guestsTemplate.locale ∈ guestsCollection.locales ∧
    ∃ plan, Plan.make [guestsEntry] guestsCollection.locales guestsTemplate.locale guestsModule =
        .ok plan ∧
      plan.NamesFit ∧ plan.WellNamed := by
  have hparsed : ∀ l ∈ guestsCollection.locales, ∃ tag, Locale.parse tag = .ok l := by
    intro l hl
    refine ⟨l.tag, ?_⟩
    revert l
    decide
  have htemplate : guestsTemplate.locale ∈ guestsCollection.locales := by decide
  have hmake : (Plan.make [guestsEntry] guestsCollection.locales guestsTemplate.locale
      guestsModule).map (fun plan => decide (∀ name ∈ plan.boundNames, IsAscii name)) =
        .ok true := by
    decide +kernel
  obtain ⟨plan, hplan, hascii⟩ := map_eq_ok_iff.1 hmake
  obtain ⟨-, -, -, hlocales, -⟩ := eq_of_make hplan
  obtain ⟨hoptions, -, -⟩ := options_of_make hplan
  have hname : plan.options.outputClass = "AppLocalizations" := congrArg (·.outputClass) hoptions
  -- all names are known, so each condition is decided
  have hfit : plan.NamesFit := {
    notKeyword := by rw [hname]; decide
    notFixed := fun hmem => by
      have hcommon := fixedNames_subset plan hmem
      rw [hname] at hcommon
      revert hcommon
      decide
    identifiers := by rw [hname, hlocales]; decide +kernel
    notDelegate := by rw [hlocales]; decide +kernel
    notTable := by rw [hname, hlocales]; decide +kernel
    distinct := by rw [hlocales]; decide }
  obtain ⟨-, hnamed, -, hiff, -⟩ := wellNamed_iff hplan hparsed
  have hapart := (hiff (of_decide_eq_true hascii)).2 hfit
  exact ⟨hparsed, htemplate, plan, hplan, hfit, (hnamed htemplate).2 hapart⟩

/-- A plan is made for a base class whose name is a keyword (`isKeyword`), and its module is
written. -/
theorem not_wellNamed_keyword :
    Locale.parse "en" = .ok ⟨"en", none, none, "en"⟩ ∧
    ∃ plan text, Plan.make [] [⟨"en", none, none, "en"⟩] ⟨"en", none, none, "en"⟩
        { ModuleOptions.standard with outputClass := "None" } = .ok plan ∧
      emit plan = .ok text ∧ ¬ plan.WellNamed := by
  have hparsed : Locale.parse "en" = .ok ⟨"en", none, none, "en"⟩ := by decide
  have hwritten : (Plan.make [] [⟨"en", none, none, "en"⟩] ⟨"en", none, none, "en"⟩
      { ModuleOptions.standard with outputClass := "None" }).map
        (fun plan => ((emit plan).isOk, plan.options.outputClass)) = .ok (true, "None") := by
    decide +kernel
  obtain ⟨plan, hplan, heq⟩ := map_eq_ok_iff.1 hwritten
  obtain ⟨hemit, hname⟩ := Prod.mk.inj heq
  obtain ⟨text, htext⟩ := exists_eq_ok_of_isOk hemit
  refine ⟨hparsed, plan, text, hplan, htext, fun hnamed => ?_⟩
  -- the base class is among the classes, and `None` is a keyword
  obtain ⟨-, hkeyword⟩ := hnamed.classes plan.options.outputClass List.mem_cons_self
  rw [hname] at hkeyword
  revert hkeyword
  decide

end Parlance.Code
