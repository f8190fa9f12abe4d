import Mathlib.Data.List.Forall2
import Parlance.Bundle
import Parlance.Proofs.Results
import Parlance.Proofs.Text.Casing

/-!
# Locales that are read from tags

A locale that is read from a tag agrees with the tag it keeps (`ofTag_of_parse`): the tag has no
hyphens, its first part is the language, it is no more than the language if the locale has no
variant, and none of its parts is empty. Which tags are read is told by the parts they are cut into
(`cutInto_iff`), and so is the rest of the locale (`inNormalForm_of_parse`). In camel case the tag
is a word that starts with no small letter and has no underscores (`OfTag.head_camelCase`,
`underscore_not_mem_camelCase`). The locale of a bundle is read from a tag, whether it is declared
or named by the file (`exists_parse_of_load`).
-/

namespace Parlance

open Parlance.Text

/-- A text that has no separator but at most one piece (`cutAt`) is that piece. -/
private theorem eq_of_cutAt_eq_singleton {sep : Char} {s piece : String} (h : cutAt sep s = [piece])
    : s = piece := by
  obtain ⟨p, hp, rfl⟩ := List.map_eq_singleton_iff.1 h
  have hjoined := joinPieces_pieces sep s.toList
  rw [hp, joinPieces] at hjoined
  rw [hjoined, String.ofList_toList]

namespace Locale

/-- The first part of a tag. -/
def firstPart (tag : String) : String := (cutAt '_' tag).headD ""

/-- Whether a locale agrees with its tag. -/
structure OfTag (l : Locale) : Prop where
  normal : normalize l.tag = l.tag
  language : firstPart l.tag = l.language
  bare : l.hasVariant = false → l.tag = l.language
  nonempty : "" ∉ cutAt '_' l.tag

/-- Putting underscores for hyphens (`normalize`) a second time changes nothing. -/
theorem normalize_normalize (tag : String) : normalize (normalize tag) = normalize tag := by
  rw [normalize, normalize, normalizeChars, String.toList_ofList, normalizeChars, List.map_map]
  congr 2
  funext c
  by_cases hc : c = '-' <;> simp [hc]

/-- The parts of a locale: the first one is the language, and there is no other if there is neither
script nor region (`hasVariant`). -/
private theorem eq_of_ofSubtags? {subtags : List String} {tag : String} {l : Locale}
    (h : ofSubtags? subtags tag = some l) :
    l.tag = tag ∧ "" ∉ subtags ∧
      ∃ rest, subtags = l.language :: rest ∧ (l.hasVariant = false → rest = []) := by
  unfold ofSubtags? at h
  split at h
  · cases h
  · next hnonempty =>
    have hparts : "" ∉ subtags := by
      simpa using hnonempty
    -- one subtag, two or three; more make no locale
    split at h
    · next language =>
      cases h
      exact ⟨rfl, hparts, [], rfl, fun _ => rfl⟩
    · next language second =>
      split at h <;> cases h <;> exact ⟨rfl, hparts, [second], rfl, nofun⟩
    · next language second third =>
      split at h <;> cases h <;> exact ⟨rfl, hparts, [second, third], rfl, nofun⟩
    · cases h

/-- A locale that is read from a tag keeps it with underscores (`normalize`). -/
theorem tag_of_parse {tag : String} {l : Locale} (h : parse tag = .ok l) :
    l.tag = normalize tag ∧ ofSubtags? (cutAt '_' l.tag) l.tag = some l := by
  dsimp only [parse] at h
  split at h
  · next found hfound =>
    cases h
    have htag := (eq_of_ofSubtags? hfound).1
    exact ⟨htag, htag ▸ hfound⟩
  · cases h

/-- A locale that is read from a tag (`OfTag`) agrees with the tag that it keeps. -/
theorem ofTag_of_parse {tag : String} {l : Locale} (h : parse tag = .ok l) : l.OfTag := by
  obtain ⟨htag, hsubtags⟩ := tag_of_parse h
  obtain ⟨-, hnonempty, rest, hparts, hbare⟩ := eq_of_ofSubtags? hsubtags
  refine ⟨?_, ?_, fun hvariant => ?_, hnonempty⟩
  · rw [htag, normalize_normalize]
  · rw [firstPart, hparts, List.headD_cons]
  · rw [hbare hvariant] at hparts
    exact eq_of_cutAt_eq_singleton hparts

/-- The tag that a locale keeps is read as the locale (`parse`). -/
theorem parse_tag {tag : String} {l : Locale} (h : parse tag = .ok l) : parse l.tag = .ok l := by
  obtain ⟨_, hsubtags⟩ := tag_of_parse h
  rw [parse, (ofTag_of_parse h).normal, hsubtags]

/-- The locale that a file name ends in (`ofSuffix?`) is read from a tag. -/
private theorem exists_parse_of_ofSuffix? {s : List Char} {l : Locale} (h : ofSuffix? s = some l) :
    ∃ tag, parse tag = .ok l := by
  induction s with
  | nil => cases h
  | cons c rest ih =>
    rw [ofSuffix?] at h
    -- an underscore starts a tag if what follows is one; if not, the search goes on
    split at h
    · split at h
      · next found hfound =>
        split at h
        · cases h
          exact ⟨_, hfound⟩
        · exact ih h
      · exact ih h
    · exact ih h

/-! ## Subtags -/

/-- Whether a tag is cut into some parts: none of them has an underscore, and the tag is the parts
with underscores between them, but for hyphens in the place of underscores. -/
structure CutInto (tag : String) (subtags : List String) : Prop where
  ne_nil : subtags ≠ []
  whole : ∀ part ∈ subtags, '_' ∉ part.toList
  joined : "_".intercalate subtags = normalize tag

/-- Whether two tags are the same but for hyphens and underscores in the place of each other. -/
def AlikeTags (a b : String) : Prop :=
  List.Forall₂ (fun c d => c = d ∨ ((c = '-' ∨ c = '_') ∧ (d = '-' ∨ d = '_'))) a.toList b.toList

/-- What a locale is like that is read from a tag with some parts: it keeps the tag with
underscores, its language is the first part, its script and its region are the others, it is that of
the tag and these, and the tag that it keeps is read as the locale itself. -/
structure InNormalForm (l : Locale) (tag : String) (subtags : List String) : Prop where
  tag : l.tag = normalize tag
  language : subtags.head? = some l.language
  others : (l.script.toList ++ l.region.toList).Perm subtags.tail
  variant : l.hasVariant = true ↔ 2 ≤ subtags.length
  bare : l.hasVariant = false → l.tag = l.language
  made : ofParts l.language l.script l.region l.tag = .ok l
  reread : parse l.tag = .ok l

/-- Joining with a separator in between is `joinPieces`. -/
private theorem intercalate_eq_joinPieces (sep : Char) (ps : List (List Char)) :
    [sep].intercalate ps = joinPieces sep ps := by
  induction ps with
  | nil => rfl
  | cons p ps ih =>
    cases ps with
    | nil => rw [List.intercalate_singleton, joinPieces]
    | cons q qs => rw [List.intercalate_cons_cons, ih, joinPieces, List.append_assoc]; rfl

/-- A tag is cut (`CutInto`) at its hyphens and underscores, and in no other way. -/
theorem cutInto_iff {tag : String} {subtags : List String} :
    CutInto tag subtags ↔ subtags = cutAt '_' (normalize tag) := by
  constructor
  · rintro ⟨hne, hwhole, hjoined⟩
    -- One direction: pieces without separators are found again when they are joined.
    have hpieces : pieces '_' (normalize tag).toList = subtags.map String.toList := by
      rw [← hjoined, String.toList_intercalate, show "_".toList = ['_'] from rfl,
        intercalate_eq_joinPieces]
      exact pieces_joinPieces (List.map_eq_nil_iff.not.2 hne) (List.forall_mem_map.2 hwhole)
    rw [cutAt, hpieces, List.map_map]
    exact (List.map_id'' (fun _ => String.ofList_toList) subtags).symm
  · rintro rfl
    refine ⟨List.map_eq_nil_iff.not.2 (pieces_ne_nil _ _), ?_, ?_⟩
    · refine List.forall_mem_map.2 fun p hp => ?_
      rw [String.toList_ofList]
      exact not_mem_of_mem_pieces hp
    · rw [← String.toList_inj, String.toList_intercalate, show "_".toList = ['_'] from rfl,
        intercalate_eq_joinPieces, cutAt, List.map_map]
      have hsame : (pieces '_' (normalize tag).toList).map (String.toList ∘ String.ofList) =
          pieces '_' (normalize tag).toList := List.map_id'' (fun _ => String.toList_ofList) _
      rw [hsame, joinPieces_pieces]

/-- There is a locale (`ofSubtags?`) for one part up to three parts, if none of them is empty. -/
private theorem exists_ofSubtags?_iff {subtags : List String} (hne : subtags ≠ []) (tag : String) :
    (∃ l, ofSubtags? subtags tag = some l) ↔ subtags.length ≤ 3 ∧ "" ∉ subtags := by
  unfold ofSubtags?
  split
  · next hempty =>
    have hmem : "" ∈ subtags := by simpa using hempty
    simp [hmem]
  · next hempty =>
    have hmem : "" ∉ subtags := by simpa using hempty
    split
    · exact ⟨fun _ => ⟨by simp, hmem⟩, fun _ => ⟨_, rfl⟩⟩
    · exact ⟨fun _ => ⟨by simp, hmem⟩, fun _ => by split <;> exact ⟨_, rfl⟩⟩
    · exact ⟨fun _ => ⟨by simp, hmem⟩, fun _ => by split <;> exact ⟨_, rfl⟩⟩
    · next hone htwo hthree =>
      -- with at most three parts one of the cases above would apply
      refine ⟨by simp, fun ⟨hlength, _⟩ => ?_⟩
      match subtags with
      | [] => exact absurd rfl hne
      | [language] => exact absurd rfl (hone language)
      | [language, second] => exact absurd rfl (htwo language second)
      | [language, second, third] => exact absurd rfl (hthree language second third)
      | _ :: _ :: _ :: _ :: _ =>
        simp only [List.length_cons] at hlength
        omega

/-- The parts of a locale (`ofSubtags?`) are those of its tag. -/
private theorem parts_of_ofSubtags? {subtags : List String} {tag : String} {l : Locale}
    (h : ofSubtags? subtags tag = some l) :
    subtags.head? = some l.language ∧ (l.script.toList ++ l.region.toList).Perm subtags.tail ∧
      (l.hasVariant = true ↔ 2 ≤ subtags.length) := by
  unfold ofSubtags? at h
  split at h
  · cases h
  · split at h
    · cases h
      exact ⟨rfl, .refl _, by simp [hasVariant]⟩
    · split at h <;> cases h <;> exact ⟨rfl, .refl _, by simp [hasVariant]⟩
    · split at h <;> cases h
      · exact ⟨rfl, .refl _, by simp [hasVariant]⟩
      · -- a region that is written before the script changes places with it
        exact ⟨rfl, .swap _ _ _, by simp [hasVariant]⟩
    · cases h

/-- A tag is read (`parse`) if and only if there is a locale of its parts. -/
theorem parse_eq_ok_iff {tag : String} {l : Locale} :
    parse tag = .ok l ↔ ofSubtags? (cutAt '_' (normalize tag)) (normalize tag) = some l := by
  dsimp only [parse]
  split
  · next found hfound => simp [hfound]
  · next hnone => simp [hnone]

/-- A tag that is not read is refused (`LocaleFault.invalid`). -/
theorem parse_eq_error_iff {tag : String} :
    parse tag = .error (.invalid tag) ↔ ¬ ∃ l, parse tag = .ok l := by
  dsimp only [parse]
  split <;> simp

/-- The locale of a tag is in normal form (`InNormalForm`). -/
theorem inNormalForm_of_parse {tag : String} {l : Locale} (h : parse tag = .ok l) :
    InNormalForm l tag (cutAt '_' (normalize tag)) := by
  have htag := ofTag_of_parse h
  obtain ⟨hlanguage, hothers, hvariant⟩ := parts_of_ofSubtags? (parse_eq_ok_iff.1 h)
  refine ⟨(tag_of_parse h).1, hlanguage, hothers, hvariant, htag.bare, ?_, parse_tag h⟩
  -- neither the language nor the tag is empty, so that both stay
  have hcut : cutAt '_' l.tag = cutAt '_' (normalize tag) := by rw [(tag_of_parse h).1]
  have hmem : l.language ∈ cutAt '_' l.tag := List.mem_of_mem_head? (hcut ▸ hlanguage)
  have hne : l.language ≠ "" := fun hempty => htag.nonempty (hempty ▸ hmem)
  have htagne : l.tag ≠ "" := by
    intro hempty
    have hnone : cutAt '_' l.tag = [""] := by rw [hempty]; rfl
    exact htag.nonempty (hnone ▸ List.mem_cons_self)
  rw [ofParts, if_neg (by simpa using hne)]
  simp [htagne]

/-- Tags are the same with underscores if and only if they are the same but for hyphens and
underscores (`AlikeTags`). -/
private theorem normalize_eq_normalize_iff {a b : String} : normalize a = normalize b ↔
    AlikeTags a b := by
  have hchar : ∀ c d : Char, (if c = '-' then '_' else c) = (if d = '-' then '_' else d) ↔
      c = d ∨ ((c = '-' ∨ c = '_') ∧ (d = '-' ∨ d = '_')) := by
    intro c d
    split <;> split <;> grind
  rw [normalize, normalize, String.ofList_inj, normalizeChars, normalizeChars,
    ← List.forall₂_eq_eq_eq, List.forall₂_map_left_iff, List.forall₂_map_right_iff, AlikeTags]
  simp only [hchar]

/-- A tag is cut in exactly one way, and it is read if it is cut into one up to three parts, none of
them empty, and refused if it is not. The locale is in normal form (`InNormalForm`), and two tags
have the same locale if and only if they are the same but for hyphens and underscores. -/
theorem parse_normalForm :
    (∀ tag, ∃ subtags, (∀ parts, CutInto tag parts ↔ parts = subtags) ∧
      ((∃ l, parse tag = .ok l) ↔
        1 ≤ subtags.length ∧ subtags.length ≤ 3 ∧ ∀ part ∈ subtags, part ≠ "") ∧
      (parse tag = .error (.invalid tag) ↔ ¬ ∃ l, parse tag = .ok l) ∧
      ∀ l, parse tag = .ok l → InNormalForm l tag subtags) ∧
    ∀ a b l m, parse a = .ok l → parse b = .ok m → (l.same m = true ↔ AlikeTags a b) := by
  refine ⟨fun tag => ⟨cutAt '_' (normalize tag), fun parts => cutInto_iff, ?_,
    parse_eq_error_iff, fun l => inNormalForm_of_parse⟩, fun a b l m ha hb => ?_⟩
  · have hne : cutAt '_' (normalize tag) ≠ [] := (cutInto_iff.2 rfl).ne_nil
    have hsome : 1 ≤ (cutAt '_' (normalize tag)).length := List.length_pos_iff.2 hne
    -- no part is empty, said in two ways
    have hempty : (∀ part ∈ cutAt '_' (normalize tag), part ≠ "") ↔
        "" ∉ cutAt '_' (normalize tag) :=
      ⟨fun h hmem => h "" hmem rfl, fun h part hpart heq => h (heq ▸ hpart)⟩
    simp only [parse_eq_ok_iff]
    rw [exists_ofSubtags?_iff hne, hempty]
    exact ⟨fun h => ⟨hsome, h⟩, fun h => h.2⟩
  · rw [same, beq_iff_eq, (tag_of_parse ha).1, (tag_of_parse hb).1, normalize_eq_normalize_iff]

/-- A tag with a hyphen (`parse`) and its region before its script. -/
theorem parse_normalForm_taiwan :
    parse "zh-TW_Hant" = .ok ⟨"zh", some "Hant", some "TW", "zh_TW_Hant"⟩ ∧
    InNormalForm ⟨"zh", some "Hant", some "TW", "zh_TW_Hant"⟩ "zh-TW_Hant" ["zh", "TW", "Hant"] ∧
    parse "zh_TW-Hant" = .ok ⟨"zh", some "Hant", some "TW", "zh_TW_Hant"⟩ ∧
    AlikeTags "zh-TW_Hant" "zh_TW-Hant" := by
  have hparse : parse "zh-TW_Hant" = .ok ⟨"zh", some "Hant", some "TW", "zh_TW_Hant"⟩ := by rfl
  have hother : parse "zh_TW-Hant" = .ok ⟨"zh", some "Hant", some "TW", "zh_TW_Hant"⟩ := by rfl
  obtain ⟨hread, hsame⟩ := parse_normalForm
  obtain ⟨subtags, hcut, -, -, hform⟩ := hread "zh-TW_Hant"
  have hsubtags : ["zh", "TW", "Hant"] = subtags := by
    refine (hcut _).1 ⟨List.cons_ne_nil _ _, ?_, rfl⟩
    decide
  exact ⟨hparse, hsubtags ▸ hform _ hparse, hother, (hsame _ _ _ _ hparse hother).1 rfl⟩

/-! ## Tags in camel case -/

/-- A character of a tag in camel case (`camelCase`) is one of a capitalized part. -/
theorem mem_camelCase_iff {l : Locale} {c : Char} :
    c ∈ l.camelCase.toList ↔ ∃ part ∈ cutAt '_' l.tag, c ∈ (capitalize part).toList := by
  rw [camelCase, String.toList_join, List.flatMap_map, List.mem_flatMap]

/-- A part starts in camel case (`capitalize`) with the upper-case form of its first character. -/
theorem toList_capitalize_of_cons {part : String} {c : Char} {rest : List Char}
    (h : part.toList = c :: rest) :
    (capitalize part).toList = upperChar c ++ lowerChars rest := by
  rw [capitalize, h, String.toList_ofList]

/-- A tag in camel case (`camelCase`) has no underscores. -/
theorem underscore_not_mem_camelCase (l : Locale) : '_' ∉ l.camelCase.toList := by
  rw [mem_camelCase_iff]
  rintro ⟨part, hpart, hmem⟩
  obtain ⟨piece, hpiece, rfl⟩ := List.mem_map.1 hpart
  have hpiece := not_mem_of_mem_pieces hpiece
  cases piece with
  | nil => exact absurd hmem (by decide)
  | cons first rest =>
    rw [toList_capitalize_of_cons String.toList_ofList, List.mem_append] at hmem
    rw [List.mem_cons, not_or] at hpiece
    -- an underscore is no letter, so that it comes from an underscore
    rcases hmem with hfirst | hrest
    · rcases low_of_mem_upperChar hfirst (by decide) with hcapital | ⟨heq, -⟩
      · exact absurd hcapital (by decide)
      · exact hpiece.1 heq
    · rcases low_of_mem_lowerFrom hrest (by decide) with hletter | hmem
      · exact absurd hletter (by decide)
      · exact hpiece.2 hmem

/-- A character without other forms (`isFixed`) stays in a tag in camel case, if it is no
underscore. -/
theorem mem_camelCase_of_fixed {l : Locale} {c : Char} (hfixed : isFixed c = true) (hc : c ≠ '_')
    (h : c ∈ l.tag.toList) : c ∈ l.camelCase.toList := by
  rw [mem_camelCase_iff]
  obtain ⟨piece, hpiece, hmem⟩ := exists_mem_pieces hc h
  refine ⟨String.ofList piece, List.mem_map_of_mem hpiece, ?_⟩
  cases piece with
  | nil => cases hmem
  | cons first rest =>
    rw [toList_capitalize_of_cons String.toList_ofList, List.mem_append]
    -- The first character of a piece goes to upper case, the others to lower case; a fixed one
    -- stays in both.
    rcases List.mem_cons.1 hmem with rfl | hrest
    · have hupper : upperChar c = [c] := by
        rw [isFixed, Bool.and_eq_true, beq_iff_eq, beq_iff_eq] at hfixed
        exact hfixed.1
      rw [hupper]
      exact .inl List.mem_cons_self
    · exact .inr (mem_lowerFrom_of_fixed hfixed hrest)

section

variable {l : Locale} (h : l.OfTag)

include h

/-- A tag in camel case (`camelCase`) starts with the upper-case form of its first character. -/
theorem OfTag.exists_camelCase : ∃ c rest, l.camelCase.toList = upperChar c ++ rest := by
  cases hcut : cutAt '_' l.tag with
  | nil => exact absurd (List.map_eq_nil_iff.1 hcut) (pieces_ne_nil _ _)
  | cons part parts =>
    have hne : part ≠ "" := fun heq => h.nonempty (heq ▸ hcut ▸ List.mem_cons_self)
    -- the language has a first letter, as no part of the tag is empty
    cases hpart : part.toList with
    | nil => exact absurd (String.toList_eq_nil_iff.1 hpart) hne
    | cons c rest =>
      refine ⟨c, lowerChars rest ++ (parts.map capitalize).flatMap String.toList, ?_⟩
      rw [camelCase, hcut, String.toList_join, List.map_cons, List.flatMap_cons,
        toList_capitalize_of_cons hpart, List.append_assoc]

/-- A tag in camel case (`camelCase`) starts with no small letter of ASCII. -/
theorem OfTag.head_camelCase : ∃ c rest, l.camelCase.toList = c :: rest ∧ c.isLower = false := by
  obtain ⟨first, rest, heq⟩ := h.exists_camelCase
  cases hupper : upperChar first with
  | nil => exact absurd hupper (upperChar_ne_nil first)
  | cons c more =>
    refine ⟨c, more ++ rest, by rw [heq, hupper, List.cons_append], ?_⟩
    have hmem : c ∈ upperChar first := hupper ▸ List.mem_cons_self
    rw [← Bool.not_eq_true]
    intro hlower
    have hc := ascii_of_isLower hlower
    -- An upper-case form in ASCII is a capital letter or comes from a character that is no letter.
    rcases low_of_mem_upperChar hmem (by omega) with hcapital | ⟨rfl, hnot⟩
    · revert hcapital hlower
      exact of_toNat_lt (P := fun c => c.isLower = true → c.isUpper = true → False) (by decide) hc
    · rw [hnot] at hlower
      cases hlower

end

end Locale

namespace Bundle

/-- The locale that is chosen for a bundle (`chooseLocale`) is read from a tag. -/
private theorem exists_parse_of_chooseLocale {path : String} {declared : Option String}
    {s : List Char} {l : Locale} (h : chooseLocale path declared (Locale.ofSuffix? s) = .ok l) :
    ∃ tag, Locale.parse tag = .ok l := by
  cases hname : Locale.ofSuffix? s with
  | none =>
    cases declared with
    | none => simp [chooseLocale, hname] at h
    | some tag =>
      rw [hname, chooseLocale, mapError_eq_ok_iff] at h
      exact ⟨tag, h⟩
  | some named =>
    cases declared with
    | none =>
      rw [hname, chooseLocale, Except.ok.injEq] at h
      exact Locale.exists_parse_of_ofSuffix? (h ▸ hname)
    | some tag =>
      rw [hname, chooseLocale] at h
      -- with both, the declared tag is taken, and only if it is the one in the name
      split at h
      · cases h
      · exact ⟨tag, mapError_eq_ok_iff.1 h⟩

/-- The locale of a bundle that is read from a file (`load`) is read from a tag. -/
theorem exists_parse_of_load {decoder : JsonDecoder} {fs : FileSystem} {path : String} {b : Bundle}
    (h : load decoder fs path = .ok b) : ∃ tag, Locale.parse tag = .ok b.locale := by
  unfold load at h
  split at h
  · cases h
  · split at h
    · cases h
    · rw [mapError_eq_ok_iff] at h
      unfold ofResources at h
      split at h
      · cases h
      · split at h
        · cases h
        · next l hchoose =>
          split at h
          · cases h
          · cases h
            -- Past all refusals, the locale is the one that was chosen.
            exact exists_parse_of_chooseLocale hchoose

end Bundle

end Parlance
