import Parlance.Proofs.Code.Members
import Parlance.Proofs.Locale.Tags

/-!
# The classes and the blocks of a module

In a plan the class of a locale is named after the base class and the tag (`className?_of_make`),
and neither classes nor accessors share a name (`checkUnique_eq_ok_iff`, `checked_of_make`).
The blocks of a module stand in its text one after another (`exists_append_of_emit`).
-/

namespace Parlance.Code

/-! ## Distinct identifiers -/

/-- Identifiers are accepted (`checkUnique`) if and only if no two names share one. -/
theorem checkUnique_eq_ok_iff {kind : String} {identifiers : Assoc String} :
    checkUnique kind identifiers = .ok () ↔ (identifiers.map (·.2)).Nodup := by
  -- the check counts the names that have an identifier
  have hcount : ∀ identifier, (namesOf identifiers identifier).length =
      (identifiers.map (·.2)).count identifier := by
    intro identifier
    rw [namesOf, List.length_map, List.count, List.countP_map, List.countP_eq_length_filter]
    rfl
  have hnone : checkUnique kind identifiers = .ok () ↔
      (identifiers.find? fun p => 1 < (namesOf identifiers p.2).length) = none := by
    unfold checkUnique
    split
    · next p hfind => simp [hfind]
    · next hfind => simp [hfind]
  rw [hnone, List.find?_eq_none, List.nodup_iff_count_le_one]
  constructor
  · intro h identifier
    -- an identifier that no name has is counted zero times
    by_cases hmem : identifier ∈ identifiers.map (·.2)
    · obtain ⟨p, hp, rfl⟩ := List.mem_map.1 hmem
      have hp := h p hp
      rw [decide_eq_true_eq, hcount] at hp
      omega
    · rw [List.count_eq_zero.2 hmem]
      omega
  · intro h p _
    have hp := h p.2
    rw [decide_eq_true_eq, hcount]
    omega

/-! ## Classes -/

/-- Locales of one tag have classes of one name (`camelCase`). -/
theorem camelCase_congr {a b : Locale} (h : a.tag = b.tag) : a.camelCase = b.camelCase := by
  rw [Locale.camelCase, h, Locale.camelCase]

section

variable {entries : List Entry} {locales : List Locale} {templateLocale : Locale}
  {options : ModuleOptions} {plan : Plan}

/-- A plan keeps the options (`options`) and the locale of the template it is made for, and is made
only for an identifier as name of the base class. -/
theorem options_of_make (h : Plan.make entries locales templateLocale options = .ok plan) :
    plan.options = options ∧ plan.templateLocale = templateLocale ∧
      Text.isIdentifier options.outputClass = true := by
  dsimp only [Plan.make] at h
  split at h
  · cases h
  · next hname =>
    obtain ⟨-, -, h⟩ := bind_eq_ok_iff.1 h
    obtain ⟨methods, -, h⟩ := bind_eq_ok_iff.1 h
    obtain ⟨-, -, h⟩ := bind_eq_ok_iff.1 h
    obtain ⟨members, -, rfl⟩ := map_eq_ok_iff.1 h
    exact ⟨rfl, rfl, by simpa using hname⟩

/-- In a plan no two tags have one class, and no two keys have one accessor. -/
theorem checked_of_make (h : Plan.make entries locales templateLocale options = .ok plan) :
    checkUnique "locale" (Plan.classNamesOf options.outputClass locales) = .ok () ∧
      ∃ methods, Plan.methodNames entries = .ok methods ∧
        checkUnique "message key" (Assoc.ofPairs methods) = .ok () := by
  dsimp only [Plan.make] at h
  split at h
  · cases h
  · obtain ⟨⟨⟩, hclasses, h⟩ := bind_eq_ok_iff.1 h
    obtain ⟨methods, hmethods, h⟩ := bind_eq_ok_iff.1 h
    obtain ⟨⟨⟩, hunique, -⟩ := bind_eq_ok_iff.1 h
    exact ⟨hclasses, methods, hmethods, hunique⟩

/-- The class of a locale (`className?`) is named after the base class and the tag. -/
theorem className?_of_make (h : Plan.make entries locales templateLocale options = .ok plan)
    {l : Locale} (hl : l ∈ locales) :
    plan.className? l = some (options.outputClass ++ l.camelCase) := by
  obtain ⟨-, -, -, -, hclasses⟩ := eq_of_make h
  rw [Plan.className?, hclasses, Plan.classNamesOf]
  have htag :
      l.tag ∈ (locales.map fun l => (l.tag, options.outputClass ++ l.camelCase)).map (·.1) := by
    rw [List.map_map]
    exact List.mem_map_of_mem hl
  obtain ⟨c, hc⟩ := Assoc.exists_get?_ofPairs htag
  rw [hc]
  -- the value may have been set for another locale of the tag
  obtain ⟨other, -, hother⟩ := List.mem_map.1 (Assoc.mem_of_get?_ofPairs hc)
  obtain ⟨htag, rfl⟩ := Prod.mk.inj hother
  rw [camelCase_congr htag]

end

/-! ## Blocks -/

/-- Each of some texts stands in what they are joined to. -/
theorem exists_append_of_mem_intercalate {separator s : String} {texts : List String}
    (h : s ∈ texts) : ∃ before after, separator.intercalate texts = before ++ s ++ after := by
  induction texts with
  | nil => cases h
  | cons first rest ih =>
    -- the last text has no separator behind it
    cases rest with
    | nil =>
      obtain rfl := List.mem_singleton.1 h
      exact ⟨"", "", by rw [String.intercalate_singleton, String.empty_append, String.append_empty]⟩
    | cons second more =>
      rw [String.intercalate_cons_cons]
      rcases List.mem_cons.1 h with rfl | hrest
      · exact ⟨"", separator ++ separator.intercalate (second :: more), by
          rw [String.empty_append, String.append_assoc]⟩
      · obtain ⟨before, after, heq⟩ := ih hrest
        exact ⟨first ++ separator ++ before, after, by rw [heq]; simp only [String.append_assoc]⟩

/-- Members that are written one after another (`joinMapped`) are each written. -/
theorem forall₂_of_joinMapped {f : Member → Except Failure String} {members : List Member}
    {text : String} (h : joinMapped f members = .ok text) :
    ∃ texts, List.Forall₂ (fun m s => f m = .ok s) members texts ∧ text = String.join texts := by
  induction members generalizing text with
  | nil =>
    cases h
    exact ⟨[], .nil, rfl⟩
  | cons m rest ih =>
    rw [joinMapped] at h
    obtain ⟨s, hs, hmore⟩ := bind_eq_ok_iff.1 h
    obtain ⟨others, hothers, heq⟩ := map_eq_ok_iff.1 hmore
    obtain ⟨texts, htexts, hjoin⟩ := ih hothers
    refine ⟨s :: texts, .cons hs htexts, ?_⟩
    rw [← heq, hjoin, String.join_cons]

/-- The classes of some locales (`localeClassBlocks`) are those of each. -/
theorem forall₂_of_localeClassBlocks {plan : Plan} {locales : List Locale} {classes : List String}
    (h : localeClassBlocks plan locales = .ok classes) :
    List.Forall₂ (fun l text => localeClassBlock plan l = .ok text) locales classes := by
  induction locales generalizing classes with
  | nil =>
    cases h
    exact .nil
  | cons l rest ih =>
    rw [localeClassBlocks] at h
    obtain ⟨text, htext, hmore⟩ := bind_eq_ok_iff.1 h
    obtain ⟨others, hothers, heq⟩ := map_eq_ok_iff.1 hmore
    rw [← heq]
    exact .cons htext (ih hothers)

/-- The blocks (`blocks`) of a module are its parts in order. -/
theorem parts_of_blocks {plan : Plan} {bs : List String} (h : blocks plan = .ok bs) :
    ∃ base classes factories, baseClassBlock plan = .ok base ∧
      List.Forall₂ (fun l text => localeClassBlock plan l = .ok text) plan.locales classes ∧
      factoriesBlock plan = .ok factories ∧
      bs = headerBlock plan :: base ::
        (classes ++ [factories, delegateBlock plan, footerBlock plan]) := by
  obtain ⟨base, hbase, hmore⟩ := bind_eq_ok_iff.1 h
  obtain ⟨classes, hclasses, hmore⟩ := bind_eq_ok_iff.1 hmore
  obtain ⟨factories, hfactories, heq⟩ := map_eq_ok_iff.1 hmore
  exact ⟨base, classes, factories, hbase, forall₂_of_localeClassBlocks hclasses, hfactories,
    heq.symm⟩

/-- Each block of a module (`blocks`) stands in its text, without the line feeds at its end. -/
theorem exists_append_of_emit {plan : Plan} {bs : List String} {text b : String}
    (h : emit plan = .ok text) (hblocks : blocks plan = .ok bs) (hb : b ∈ bs) :
    ∃ before after, text = before ++ dropFinalNewlines b ++ after := by
  obtain ⟨bs', hblocks', rfl⟩ := map_eq_ok_iff.1 h
  cases hblocks.symm.trans hblocks'
  obtain ⟨before, after, heq⟩ := exists_append_of_mem_intercalate
    (List.mem_map_of_mem hb) (s := dropFinalNewlines b)
  exact ⟨before, after ++ "\n", by rw [heq, String.append_assoc]⟩

/-- The line feeds that are dropped (`dropFinalNewlines`) at the end of a text stand behind its last
other character. -/
theorem exists_dropFinalNewlines_append {last : String} {c : Char}
    (h : last.toList.getLast? = some c) (hc : c ≠ '\n') (s after : String) :
    ∃ rest, dropFinalNewlines (s ++ last ++ after) = s ++ last ++ rest := by
  obtain ⟨opening, hopening⟩ := List.getLast?_eq_some_iff.1 h
  -- from the end, dropping stops at `c` at the latest
  have hkept : ((s ++ last).toList.reverse).dropWhile (· == '\n') = (s ++ last).toList.reverse := by
    rw [String.toList_append, hopening, ← List.append_assoc, List.reverse_append,
      List.reverse_singleton, List.singleton_append, List.dropWhile_cons_of_neg (by simpa using hc)]
  rw [dropFinalNewlines, String.toList_append, List.reverse_append, List.dropWhile_append, hkept]
  split
  · refine ⟨"", ?_⟩
    rw [List.reverse_reverse, String.ofList_toList, String.append_empty]
  · refine ⟨String.ofList ((after.toList.reverse.dropWhile (· == '\n')).reverse), ?_⟩
    rw [List.reverse_append, List.reverse_reverse, String.ofList_append, String.ofList_toList]

/-- A text ends as what stands at its end. -/
theorem getLast?_toList_append {last : String} {c : Char} (h : last.toList.getLast? = some c)
    (s : String) : (s ++ last).toList.getLast? = some c := by
  rw [String.toList_append, List.getLast?_append, h, Option.some_or]

/-- What stands in a block of a module and ends with no line feed stands in the module (`emit`). -/
theorem exists_append_of_block {plan : Plan} {bs : List String} {text s last after : String}
    {c : Char} (h : emit plan = .ok text) (hblocks : blocks plan = .ok bs)
    (hb : s ++ last ++ after ∈ bs) (hlast : last.toList.getLast? = some c) (hc : c ≠ '\n') :
    ∃ before after, text = before ++ last ++ after := by
  obtain ⟨front, back, htext⟩ := exists_append_of_emit h hblocks hb
  obtain ⟨rest, hrest⟩ := exists_dropFinalNewlines_append hlast hc s after
  refine ⟨front ++ s, rest ++ back, ?_⟩
  rw [htext, hrest]
  simp only [String.append_assoc]

end Parlance.Code
