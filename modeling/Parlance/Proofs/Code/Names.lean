import Parlance.Proofs.Code.Classes

/-!
# Names that a module binds

A module binds its classes, the function that looks messages up, and names that are the same in
every module. All classes have the name of the base class in front. What follows is no word in small
letters, and has no underscore, while the function has one underscore more than the base class. So
few names can meet, and only those in `Plan.NamesFit` do: with it the classes are variables and no
name is spelled as another, and not without it (`namesFit_iff`).

What is bound is not a name but its normal form. Names whose normal forms are distinct
(`Plan.NamesApart`) are spelled differently, and among names of ASCII the spelling decides
(`namesApart_iff_of_ascii`).
-/

namespace Parlance.Code

open Parlance.Text

/-! ## Names with something behind them -/

/-- A name that goes on with anything but small letters is no word whose letters after the first are
all small. -/
private theorem append_ne_of_lower_tail {s more w : String} (hs : s ≠ "") {c : Char}
    (hc : c ∈ more.toList) (hcapital : c.isLower = false)
    (hw : w.toList.tail.all Char.isLower = true) : s ++ more ≠ w := by
  rintro rfl
  -- `c` is not the first character, as there is one before it
  have htail : c ∈ (s ++ more).toList.tail := by
    cases hchars : s.toList with
    | nil => exact absurd (String.toList_eq_nil_iff.1 hchars) hs
    | cons first rest =>
      rw [String.toList_append, hchars, List.cons_append, List.tail_cons]
      exact List.mem_append_right rest hc
  have hlower := List.all_eq_true.1 hw c htail
  rw [hcapital] at hlower
  cases hlower

/-- Keywords (`isKeyword`) have small letters only, behind the first. -/
private theorem lower_tail_of_isKeyword {w : String} (h : isKeyword w = true) :
    w.toList.tail.all Char.isLower = true := by
  have hall : keywords.all (fun w => w.toList.tail.all Char.isLower) = true := by decide
  rw [isKeyword, List.contains_iff_mem] at h
  exact List.all_eq_true.1 hall w h

/-! ## Underscores -/

/-- The function that looks messages up (`lookupFunction`) has more underscores than the base class.
-/
private theorem count_lt_count_lookupFunction (plan : Plan) :
    plan.options.outputClass.toList.count '_' < plan.lookupFunction.toList.count '_' := by
  have hsplit := (sublist_splitWords none plan.options.outputClass.toList).count_le '_'
  have hprefix : "lookup_".toList.count '_' = 1 := by decide
  rw [Plan.lookupFunction, String.toList_append, List.count_append, hprefix, snakeCase,
    String.toList_ofList, snakeChars, lowerChars, count_lowerFrom]
  omega

/-- The function that looks messages up (`lookupFunction`) is none that has the name of the base
class and no further underscore. -/
private theorem append_ne_lookupFunction (plan : Plan) {more : String} (hmore : '_' ∉ more.toList) :
    plan.options.outputClass ++ more ≠ plan.lookupFunction := by
  intro heq
  have hcount := count_lt_count_lookupFunction plan
  rw [← heq, String.toList_append, List.count_append, List.count_eq_zero.2 hmore] at hcount
  omega

/-! ## The names of a module -/

/-- The names that every module binds. -/
def commonNames : List String :=
  ["delegate", "_LOCALE_FACTORIES", "_SUPPORTED_LANGUAGES", "abc", "runtime", "annotations"]

/-- The names that a module binds whatever its classes are. -/
def fixedNames (plan : Plan) : List String :=
  commonNames ++ if usesDates plan then ["datetime"] else []

/-- The classes of a module: the base class, the one that loads messages, and one for each locale.
-/
def Plan.classes (plan : Plan) : List String :=
  plan.options.outputClass :: plan.delegateClass ::
    plan.locales.map fun l => (plan.className? l).getD ""

/-- The names that a module binds. -/
def Plan.boundNames (plan : Plan) : List String :=
  plan.classes ++ plan.lookupFunction :: fixedNames plan

/-- Whether the classes of a module are variables, and no two of the names that it binds are one
identifier. -/
structure Plan.NamesApart (plan : Plan) : Prop where
  classes : ∀ name ∈ plan.classes, IsVariable name
  bound : (plan.boundNames.map nfkc).Nodup

/-- Whether the base class and the tags of the locales give no name that is taken, as names are
spelled, or no name. -/
structure Plan.NamesFit (plan : Plan) : Prop where
  notKeyword : isKeyword plan.options.outputClass = false
  notFixed : plan.options.outputClass ∉ fixedNames plan
  identifiers : ∀ l ∈ plan.locales, isIdentifier (plan.options.outputClass ++ l.camelCase) = true
  notDelegate : ∀ l ∈ plan.locales, l.camelCase ≠ "Delegate"
  notTable : ∀ l ∈ plan.locales,
    plan.options.outputClass ++ l.camelCase ∉ ["_LOCALE_FACTORIES", "_SUPPORTED_LANGUAGES"]
  distinct : (plan.locales.map (·.tag)).Nodup

/-- The fixed names are the common ones, and `datetime` where dates are used. -/
theorem fixedNames_subset (plan : Plan) : fixedNames plan ⊆ commonNames ++ ["datetime"] := by
  unfold fixedNames
  split
  · exact List.Subset.refl _
  · rw [List.append_nil]
    exact List.subset_append_left _ _

/-- Each fixed name (`fixedNames`) is a word in small letters, or the name of a table. -/
private theorem fixedNames_cases {plan : Plan} {w : String} (h : w ∈ fixedNames plan) :
    w.toList.tail.all Char.isLower = true ∨ w ∈ ["_LOCALE_FACTORIES", "_SUPPORTED_LANGUAGES"] := by
  have hall : ∀ w ∈ commonNames ++ ["datetime"], w.toList.tail.all Char.isLower = true ∨
      w ∈ ["_LOCALE_FACTORIES", "_SUPPORTED_LANGUAGES"] := by
    decide
  exact hall w (fixedNames_subset plan h)

/-- The names of the tables are fixed (`fixedNames`). -/
private theorem mem_fixedNames_of_table (plan : Plan) {w : String}
    (h : w ∈ ["_LOCALE_FACTORIES", "_SUPPORTED_LANGUAGES"]) : w ∈ fixedNames plan := by
  have hall : ["_LOCALE_FACTORIES", "_SUPPORTED_LANGUAGES"] ⊆ commonNames := by decide
  exact List.mem_append_left _ (hall h)

/-- The fixed names (`fixedNames`) and the function that looks messages up are distinct. -/
private theorem nodup_lookupFunction_fixedNames (plan : Plan) :
    (plan.lookupFunction :: fixedNames plan).Nodup := by
  -- no fixed name has the letter
  have hletter : 'k' ∈ plan.lookupFunction.toList := by
    rw [Plan.lookupFunction, String.toList_append]
    exact List.mem_append_left _ (by decide)
  have hnone : ∀ w ∈ commonNames ++ ["datetime"], 'k' ∉ w.toList := by decide
  rw [List.nodup_cons]
  refine ⟨fun hmem => hnone _ (fixedNames_subset plan hmem) hletter, ?_⟩
  unfold fixedNames
  split <;> decide

/-- What follows the name of the base class in the name of another class (`camelCase`) has no
underscore, and has a character that is no small letter. -/
private theorem suffix_of_mem {locales : List Locale} (htags : ∀ l ∈ locales, l.OfTag)
    {more : String} (hmore : more ∈ "Delegate" :: locales.map (·.camelCase)) :
    '_' ∉ more.toList ∧ ∃ c ∈ more.toList, c.isLower = false := by
  rcases List.mem_cons.1 hmore with rfl | hlocale
  · exact ⟨by decide, 'D', by decide, rfl⟩
  · obtain ⟨l, hl, rfl⟩ := List.mem_map.1 hlocale
    obtain ⟨c, rest, hchars, hcapital⟩ := (htags l hl).head_camelCase
    exact ⟨l.underscore_not_mem_camelCase, c, hchars ▸ List.mem_cons_self, hcapital⟩

section

variable {entries : List Entry} {locales : List Locale} {templateLocale : Locale}
  {options : ModuleOptions} {plan : Plan}
  (h : Plan.make entries locales templateLocale options = .ok plan)

include h

/-- The classes (`classes`) have the name of the base class in front. -/
private theorem classes_of_make : plan.classes =
    ("" :: "Delegate" :: locales.map (·.camelCase)).map (plan.options.outputClass ++ ·) := by
  obtain ⟨-, -, -, hlocales, -⟩ := eq_of_make h
  obtain ⟨hoptions, -, -⟩ := options_of_make h
  have hnames : plan.locales.map (fun l => (plan.className? l).getD "") =
      locales.map fun l => plan.options.outputClass ++ l.camelCase := by
    rw [hlocales]
    refine List.map_congr_left fun l hl => ?_
    rw [className?_of_make h hl, hoptions, Option.getD_some]
  rw [Plan.classes, hnames, List.map_cons, List.map_cons, List.map_map, String.append_empty]
  rfl

/-- The classes of locales (`camelCase`) are distinct if and only if their tags are. -/
private theorem nodup_camelCase_iff_of_make :
    (locales.map (·.camelCase)).Nodup ↔ (locales.map (·.tag)).Nodup := by
  constructor
  · -- a class is made of the tag alone
    intro hclasses
    have hcamel : locales.map (·.camelCase) = (locales.map (·.tag)).map fun tag =>
        String.join ((cutAt '_' tag).map Locale.capitalize) := by
      rw [List.map_map]
      rfl
    rw [hcamel] at hclasses
    exact hclasses.of_map
  · intro htags
    -- the plan has been checked: two tags do not share a class
    obtain ⟨hunique, -⟩ := checked_of_make h
    have hpairs : Plan.classNamesOf options.outputClass locales =
        locales.map fun l => (l.tag, options.outputClass ++ l.camelCase) := by
      refine Assoc.ofPairs_of_nodup ?_
      rwa [List.map_map]
    rw [hpairs, checkUnique_eq_ok_iff, List.map_map] at hunique
    have hcomp : locales.map ((fun p : String × String => p.2) ∘ fun l : Locale =>
        (l.tag, options.outputClass ++ l.camelCase)) =
          (locales.map (·.camelCase)).map (options.outputClass ++ ·) := by
      rw [List.map_map]
      rfl
    rw [hcomp] at hunique
    exact hunique.of_map

variable (htags : ∀ l ∈ locales, l.OfTag)

include htags

/-- No class is bound twice if and only if no tag comes twice and none is that of the class that
loads messages. -/
private theorem nodup_classes_iff_of_make :
    plan.classes.Nodup ↔
      (∀ l ∈ locales, l.camelCase ≠ "Delegate") ∧ (locales.map (·.tag)).Nodup := by
  have hinjective : Function.Injective (plan.options.outputClass ++ ·) := fun a b heq =>
    (String.append_right_inj _).1 heq
  have hempty : "" ∉ "Delegate" :: locales.map (·.camelCase) := by
    intro hmem
    obtain ⟨-, c, hc, -⟩ := suffix_of_mem htags hmem
    cases hc
  rw [classes_of_make h, List.nodup_map_iff hinjective, List.nodup_cons, List.nodup_cons,
    nodup_camelCase_iff_of_make h, List.mem_map]
  simp only [hempty, not_false_eq_true, true_and, not_exists, not_and, ne_eq]

/-- A class of a locale, or the class that loads messages, is no word in small letters. -/
private theorem append_ne_word_of_make {more w : String}
    (hmore : more ∈ "Delegate" :: locales.map (·.camelCase))
    (hw : w.toList.tail.all Char.isLower = true) : plan.options.outputClass ++ more ≠ w := by
  obtain ⟨hoptions, -, hname⟩ := options_of_make h
  rw [← hoptions] at hname
  obtain ⟨-, c, hc, hcapital⟩ := suffix_of_mem htags hmore
  exact append_ne_of_lower_tail (ne_empty_of_isIdentifier hname) hc hcapital hw

/-- A class of a locale, or the class that loads messages, is a fixed name (`fixedNames`) only if it
is that of a table. -/
private theorem append_mem_fixedNames_iff {more : String}
    (hmore : more ∈ "Delegate" :: locales.map (·.camelCase)) :
    plan.options.outputClass ++ more ∈ fixedNames plan ↔
      plan.options.outputClass ++ more ∈ ["_LOCALE_FACTORIES", "_SUPPORTED_LANGUAGES"] := by
  refine ⟨fun hmem => ?_, mem_fixedNames_of_table plan⟩
  rcases fixedNames_cases hmem with hword | htable
  · exact absurd rfl (append_ne_word_of_make h htags hmore hword)
  · exact htable

/-- The class that loads messages (`delegateClass`) has no fixed name. -/
private theorem delegateClass_not_mem_fixedNames : plan.delegateClass ∉ fixedNames plan := by
  rw [Plan.delegateClass, append_mem_fixedNames_iff h htags List.mem_cons_self]
  intro htable
  have hletter : 'e' ∈ (plan.options.outputClass ++ "Delegate").toList := by
    rw [String.toList_append]
    exact List.mem_append_right _ (by decide)
  have hnone : ∀ w ∈ ["_LOCALE_FACTORIES", "_SUPPORTED_LANGUAGES"], 'e' ∉ w.toList := by decide
  exact hnone _ htable hletter

/-- No class (`classes`) has the name of something else if and only if neither the base class nor
that of a locale does. -/
private theorem disjoint_classes_iff_of_make :
    List.Disjoint plan.classes (plan.lookupFunction :: fixedNames plan) ↔
      plan.options.outputClass ∉ fixedNames plan ∧
      ∀ l ∈ locales,
        plan.options.outputClass ++ l.camelCase ∉ ["_LOCALE_FACTORIES", "_SUPPORTED_LANGUAGES"] :=
        by
  -- the function has more underscores than any class can have
  have hlookup : ∀ name ∈ plan.classes, name ≠ plan.lookupFunction := by
    intro name hname
    rw [classes_of_make h, List.mem_map] at hname
    obtain ⟨more, hmore, rfl⟩ := hname
    rcases List.mem_cons.1 hmore with rfl | hsuffix
    · exact append_ne_lookupFunction plan (by decide)
    · exact append_ne_lookupFunction plan (suffix_of_mem htags hsuffix).1
  have hfixed : ∀ l ∈ locales, plan.options.outputClass ++ l.camelCase ∈ fixedNames plan ↔
      plan.options.outputClass ++ l.camelCase ∈ ["_LOCALE_FACTORIES", "_SUPPORTED_LANGUAGES"] :=
    fun l hl => append_mem_fixedNames_iff h htags (List.mem_cons_of_mem _ (List.mem_map_of_mem hl))
  constructor
  · intro hdisjoint
    have hfree : ∀ name ∈ plan.classes, name ∉ fixedNames plan := fun name hname hmem =>
      hdisjoint hname (List.mem_cons_of_mem _ hmem)
    rw [classes_of_make h] at hfree
    refine ⟨hfree _ (List.mem_map.2 ⟨"", List.mem_cons_self, String.append_empty⟩),
      fun l hl htable => ?_⟩
    refine hfree _ (List.mem_map_of_mem ?_) ((hfixed l hl).2 htable)
    exact List.mem_cons_of_mem _ (List.mem_cons_of_mem _ (List.mem_map_of_mem hl))
  · rintro ⟨hbase, htable⟩ name hname hmem
    rcases List.mem_cons.1 hmem with heq | hmem
    · exact hlookup name hname heq
    · rw [classes_of_make h, List.map_cons, List.map_cons, List.map_map,
        String.append_empty] at hname
      rcases List.mem_cons.1 hname with rfl | hname
      · exact hbase hmem
      · rcases List.mem_cons.1 hname with rfl | hname
        · exact delegateClass_not_mem_fixedNames h htags hmem
        · obtain ⟨l, hl, rfl⟩ := List.mem_map.1 hname
          exact htable l hl ((hfixed l hl).1 hmem)

/-- The classes (`classes`) are variables if and only if the base class is no keyword and the
classes of locales are identifiers. -/
private theorem isVariable_classes_iff_of_make :
    (∀ name ∈ plan.classes, IsVariable name) ↔
      isKeyword plan.options.outputClass = false ∧
      ∀ l ∈ locales, isIdentifier (plan.options.outputClass ++ l.camelCase) = true := by
  obtain ⟨hoptions, -, hname⟩ := options_of_make h
  rw [← hoptions] at hname
  -- what follows the base class makes any keyword a name
  have hkeyword : ∀ more ∈ "Delegate" :: locales.map (·.camelCase),
      isKeyword (plan.options.outputClass ++ more) = false := by
    intro more hmore
    rw [← Bool.not_eq_true]
    intro hword
    exact append_ne_word_of_make h htags hmore (lower_tail_of_isKeyword hword) rfl
  have hparts : "Delegate".toList.all isIdentifierPart = true := by decide
  have hdelegate : isIdentifier (plan.options.outputClass ++ "Delegate") = true :=
    isIdentifier_append hname (List.all_eq_true.1 hparts)
  rw [classes_of_make h, List.forall_mem_map, List.forall_mem_cons, List.forall_mem_cons,
    List.forall_mem_map, String.append_empty]
  constructor
  · rintro ⟨hbase, -, hlocales⟩
    exact ⟨hbase.2, fun l hl => (hlocales l hl).1⟩
  · rintro ⟨hbase, hlocales⟩
    exact ⟨⟨hname, hbase⟩, ⟨hdelegate, hkeyword _ List.mem_cons_self⟩, fun l hl =>
      ⟨hlocales l hl, hkeyword _ (List.mem_cons_of_mem _ (List.mem_map_of_mem hl))⟩⟩

/-- The classes are variables and no name is spelled as another if and only if the names fit
(`NamesFit`). -/
theorem namesFit_iff :
    plan.NamesFit ↔ (∀ name ∈ plan.classes, IsVariable name) ∧ plan.boundNames.Nodup := by
  obtain ⟨-, -, -, hlocales, -⟩ := eq_of_make h
  rw [Plan.boundNames, List.nodup_append', nodup_classes_iff_of_make h htags,
    disjoint_classes_iff_of_make h htags, isVariable_classes_iff_of_make h htags, ← hlocales]
  constructor
  · rintro ⟨hkeyword, hfixed, hidentifiers, hdelegate, htable, hdistinct⟩
    exact ⟨⟨hkeyword, hidentifiers⟩, ⟨hdelegate, hdistinct⟩, nodup_lookupFunction_fixedNames plan,
      hfixed, htable⟩
  · rintro ⟨⟨hkeyword, hidentifiers⟩, ⟨hdelegate, hdistinct⟩, -, hfixed, htable⟩
    exact ⟨hkeyword, hfixed, hidentifiers, hdelegate, htable, hdistinct⟩

/-- Names that are distinct identifiers fit (`NamesFit`). -/
theorem namesFit_of_namesApart (hapart : plan.NamesApart) : plan.NamesFit :=
  (namesFit_iff h htags).2 ⟨hapart.classes, hapart.bound.of_map⟩

/-- Names of ASCII are distinct identifiers (`NamesApart`) if and only if they fit. -/
theorem namesApart_iff_of_ascii (hascii : ∀ name ∈ plan.boundNames, IsAscii name) :
    plan.NamesApart ↔ plan.NamesFit := by
  have hsame : plan.boundNames.map nfkc = plan.boundNames.map id :=
    List.map_congr_left fun name hname => nfkc_of_ascii (hascii name hname)
  refine ⟨namesFit_of_namesApart h htags, fun hfit => ?_⟩
  obtain ⟨hclasses, hbound⟩ := (namesFit_iff h htags).1 hfit
  exact ⟨hclasses, by rwa [hsame, List.map_id]⟩

end

end Parlance.Code
