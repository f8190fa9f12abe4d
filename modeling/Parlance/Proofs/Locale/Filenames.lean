import Parlance.Proofs.Locale.Tags

/-!
# Locales in file names

The locale that a file name ends in is looked for behind each underscore, from left to right. What
stands there, without its extension, may be the tag of a locale of a known language (`Names`); the
first such locale is the answer (`ofSuffix?_eq_some_iff`), and there is none if no underscore has
one (`ofSuffix?_eq_none_iff`). A tag is found behind every text in which no piece after an
underscore is a language code (`Harmless`).
-/

namespace Parlance.Locale

open Parlance.Text

/-- What is left of a text without its extension: the text before its last dot, and all of it if it
has no dot. -/
inductive WithoutExtension : List Char → List Char → Prop
  | dotless {s} (h : '.' ∉ s) : WithoutExtension s s
  | dotted {stem extension} (h : '.' ∉ extension) :
    WithoutExtension (stem ++ '.' :: extension) stem

/-- Whether a text behind an underscore names a locale: without its extension it is the tag of the
locale, and the language is known. -/
def Names (rest : List Char) (l : Locale) : Prop :=
  ∃ stem, WithoutExtension rest stem ∧ parse (String.ofList stem) = .ok l ∧
    l.language ∈ languageCodes

/-- Whether no underscore in the first part of a text names a locale. -/
def NoneNamed (before rest : List Char) : Prop :=
  ∀ earlier later, before = earlier ++ '_' :: later → ∀ l, ¬ Names (later ++ rest) l

/-- Whether a character separates the parts of a tag. -/
def isSeparator (c : Char) : Bool := c == '_' || c == '-'

/-- Whether no piece that follows an underscore, cut at the next separator, is a language code. -/
def Harmless (s : List Char) : Prop :=
  ∀ before after, s = before ++ '_' :: after →
    String.ofList (after.takeWhile fun c => !isSeparator c) ∉ languageCodes

/-! ## Extensions -/

/-- A text with a dot is cut at its last one (`beforeLastDot`). -/
private theorem beforeLastDot_append {stem extension : List Char} (h : '.' ∉ extension) :
    beforeLastDot (stem ++ '.' :: extension) = stem := by
  have hreverse : (stem ++ '.' :: extension).reverse =
      extension.reverse ++ '.' :: stem.reverse := by
    simp
  -- from the end, the first dot is the one before the extension
  have hpass : ∀ c ∈ extension.reverse, (c != '.') = true := by
    intro c hc
    rw [bne_iff_ne]
    rintro rfl
    exact h (List.mem_reverse.1 hc)
  rw [beforeLastDot, if_pos (by simp), hreverse, List.dropWhile_append_of_pos hpass]
  simp

/-- `beforeLastDot` takes off the extension. -/
theorem WithoutExtension.eq {s stem : List Char} (h : WithoutExtension s stem) :
    beforeLastDot s = stem := by
  cases h with
  | dotless h => rw [beforeLastDot, if_neg (by simpa using h)]
  | dotted h => exact beforeLastDot_append h

/-- Every text is without its extension what stands before its last dot (`beforeLastDot`). -/
private theorem withoutExtension_beforeLastDot (s : List Char) : WithoutExtension s
    (beforeLastDot s) := by
  -- without a dot the name is left as it is
  by_cases hdot : '.' ∈ s
  · obtain ⟨after, before, hsplit, hafter⟩ := List.eq_append_cons_of_mem (List.mem_reverse.2 hdot)
    have hs : s = before.reverse ++ '.' :: after.reverse := by
      rw [← List.reverse_reverse s, hsplit]
      simp
    have hextension : '.' ∉ after.reverse := by
      simpa using hafter
    rw [hs, beforeLastDot_append hextension]
    exact .dotted hextension
  · have hs : beforeLastDot s = s := WithoutExtension.eq (.dotless hdot)
    rw [hs]
    exact .dotless hdot

/-! ## Underscores -/

section

variable {s before rest : List Char} {l : Locale}

/-- What a text `Names` is the locale that is read from it without its extension, if the language is
known. -/
private theorem names_iff :
    Names rest l ↔
      parse (String.ofList (beforeLastDot rest)) = .ok l ∧ l.hasKnownLanguage = true := by
  rw [hasKnownLanguage, List.contains_iff_mem]
  constructor
  · rintro ⟨stem, hstem, hparse, hlanguage⟩
    exact ⟨hstem.eq ▸ hparse, hlanguage⟩
  · rintro ⟨hparse, hlanguage⟩
    exact ⟨_, withoutExtension_beforeLastDot rest, hparse, hlanguage⟩

/-- A text behind an underscore names (`Names`) one locale at most. -/
theorem Names.unique {l' : Locale} (h : Names rest l) (h' : Names rest l') : l = l' := by
  have hparse := (names_iff.1 h).1.symm.trans (names_iff.1 h').1
  exact Except.ok.inj hparse

/-- The locale behind the first underscore is found (`ofSuffix?`), if there is one. -/
private theorem ofSuffix?_of_names (h : Names rest l) : ofSuffix? ('_' :: rest) = some l := by
  obtain ⟨hparse, hknown⟩ := names_iff.1 h
  rw [ofSuffix?, if_pos rfl, hparse]
  simp only [hknown, if_true]

/-- Without a locale behind the first underscore, the search goes on (`ofSuffix?`). -/
private theorem ofSuffix?_of_not_names (h : ∀ l, ¬ Names rest l) :
    ofSuffix? ('_' :: rest) = ofSuffix? rest := by
  rw [ofSuffix?, if_pos rfl]
  cases hparse : parse (String.ofList (beforeLastDot rest)) with
  | error e => rfl
  | ok l =>
    have hunknown : ¬ l.hasKnownLanguage = true := fun hknown => h l (names_iff.2 ⟨hparse, hknown⟩)
    simp only [hunknown]
    rfl

/-- The search goes on (`ofSuffix?`) past a character that is no underscore. -/
private theorem ofSuffix?_of_ne {c : Char} (h : c ≠ '_') : ofSuffix? (c :: rest) = ofSuffix? rest :=
    by
  rw [ofSuffix?, if_neg h]

/-- Before the start there is no underscore (`NoneNamed`). -/
private theorem noneNamed_nil (rest : List Char) : NoneNamed [] rest := by
  intro earlier later h
  simp at h

/-- Underscores in a text are its first character or stand behind it. -/
private theorem noneNamed_cons {c : Char} :
    NoneNamed (c :: before) rest ↔
      (c = '_' → ∀ l, ¬ Names (before ++ rest) l) ∧ NoneNamed before rest := by
  constructor
  · intro h
    refine ⟨fun hc => h [] before (by rw [hc]; rfl), fun earlier later hsplit => ?_⟩
    exact h (c :: earlier) later (by rw [hsplit]; rfl)
  · rintro ⟨hfirst, hmore⟩ earlier later hsplit
    -- either nothing is before the underscore, or `c` is
    cases earlier with
    | nil =>
      obtain ⟨rfl, rfl⟩ := List.cons.inj hsplit
      exact hfirst rfl
    | cons d earlier =>
      obtain ⟨rfl, rfl⟩ := List.cons.inj hsplit
      exact hmore earlier later rfl

/-- Underscores that name no locale (`NoneNamed`) are passed over. -/
theorem ofSuffix?_append (h : NoneNamed before rest) :
    ofSuffix? (before ++ rest) = ofSuffix? rest := by
  induction before with
  | nil => rfl
  | cons c before ih =>
    obtain ⟨hfirst, hmore⟩ := noneNamed_cons.1 h
    rw [List.cons_append]
    by_cases hc : c = '_'
    · rw [hc, ofSuffix?_of_not_names (hfirst hc), ih hmore]
    · rw [ofSuffix?_of_ne hc, ih hmore]

/-- Either no underscore names (`Names`) a locale, or a first one does. -/
theorem noneNamed_or_names (s : List Char) :
    NoneNamed s [] ∨ ∃ before rest l, s = before ++ '_' :: rest ∧ Names rest l ∧
      NoneNamed before ('_' :: rest) := by
  induction s with
  | nil => exact .inl (noneNamed_nil [])
  | cons c s ih =>
    -- the first underscore that names a locale is here, or it is in the rest
    by_cases hnames : c = '_' ∧ ∃ l, Names s l
    · obtain ⟨rfl, l, hl⟩ := hnames
      exact .inr ⟨[], s, l, rfl, hl, noneNamed_nil _⟩
    · have hfirst : c = '_' → ∀ l, ¬ Names s l := fun hc l hl => hnames ⟨hc, l, hl⟩
      rcases ih with hnone | ⟨before, rest, l, rfl, hl, hnone⟩
      · refine .inl (noneNamed_cons.2 ⟨?_, hnone⟩)
        rwa [List.append_nil]
      · exact .inr ⟨c :: before, rest, l, rfl, hl, noneNamed_cons.2 ⟨hfirst, hnone⟩⟩

/-- The locale that is found (`ofSuffix?`) is the one behind the first underscore that has one. -/
theorem ofSuffix?_eq_some_iff :
    ofSuffix? s = some l ↔ ∃ before rest, s = before ++ '_' :: rest ∧ Names rest l ∧
      NoneNamed before ('_' :: rest) := by
  constructor
  · intro h
    rcases noneNamed_or_names s with hnone | ⟨before, rest, l', rfl, hl', hnone⟩
    · rw [← List.append_nil s, ofSuffix?_append hnone] at h
      cases h
    · rw [ofSuffix?_append hnone, ofSuffix?_of_names hl', Option.some.injEq] at h
      exact ⟨before, rest, rfl, h ▸ hl', hnone⟩
  · rintro ⟨before, rest, rfl, hl, hnone⟩
    rw [ofSuffix?_append hnone, ofSuffix?_of_names hl]

/-- No locale is found if and only if no underscore has one behind it (`Names`). -/
theorem ofSuffix?_eq_none_iff :
    ofSuffix? s = none ↔ ∀ before rest, s = before ++ '_' :: rest → ∀ l, ¬ Names rest l := by
  have hall : NoneNamed s [] ↔ ∀ before rest, s = before ++ '_' :: rest → ∀ l, ¬ Names rest l := by
    simp only [NoneNamed, List.append_nil]
  rw [← hall]
  constructor
  · intro h
    -- Were there a first underscore with a locale behind it, the search would have found it.
    refine (noneNamed_or_names s).resolve_right ?_
    rintro ⟨before, rest, l, hsplit, hl, hnone⟩
    rw [ofSuffix?_eq_some_iff.2 ⟨before, rest, hsplit, hl, hnone⟩] at h
    cases h
  · intro hnone
    rw [← List.append_nil s, ofSuffix?_append hnone]
    rfl

end

/-! ## Languages of tags -/

/-- The first piece (`pieces`) of a text is what stands before its first separator. -/
private theorem headD_pieces (sep : Char) (s d : List Char) :
    (pieces sep s).headD d = s.takeWhile (· != sep) := by
  induction s with
  | nil => rfl
  | cons c rest ih =>
    by_cases hc : c = sep
    · simp [pieces, hc]
    · -- there is always a first piece, which `c` is added to
      cases hpieces : pieces sep rest with
      | nil => exact absurd hpieces (pieces_ne_nil sep rest)
      | cons p ps =>
        rw [hpieces, List.headD_cons] at ih
        simp [pieces, hc, hpieces, ih]

/-- With underscores for hyphens (`normalizeChars`), the first underscore is where the first
separator was. -/
private theorem takeWhile_normalizeChars (s : List Char) :
    (normalizeChars s).takeWhile (· != '_') = s.takeWhile fun c => !isSeparator c := by
  induction s with
  | nil => rfl
  | cons c rest ih =>
    rw [normalizeChars, List.map_cons, ← normalizeChars]
    by_cases hhyphen : c = '-'
    · simp [hhyphen, isSeparator]
    · by_cases hunderscore : c = '_'
      · simp [hunderscore, isSeparator]
      · simp [hhyphen, hunderscore, isSeparator, ih]

/-- The language of a locale is what stands before the first separator (`isSeparator`) of its tag.
-/
theorem language_of_parse {tag : String} {l : Locale} (h : parse tag = .ok l) :
    l.language = String.ofList (tag.toList.takeWhile fun c => !isSeparator c) := by
  have hfirst := (ofTag_of_parse h).language
  have hcut : firstPart (normalize tag) =
      String.ofList ((pieces '_' (normalizeChars tag.toList)).headD []) := by
    rw [firstPart, cutAt, normalize, String.toList_ofList]
    cases hpieces : pieces '_' (normalizeChars tag.toList) with
    | nil => exact absurd hpieces (pieces_ne_nil _ _)
    | cons p ps => rfl
  rw [(tag_of_parse h).1, hcut, headD_pieces, takeWhile_normalizeChars] at hfirst
  exact hfirst.symm

/-! ## Harmless texts -/

/-- The empty text is harmless (`Harmless`). -/
private theorem harmless_nil : Harmless [] := by
  intro before after h
  simp at h

/-- A text is harmless (`Harmless`) if no language code stands behind an underscore at its start,
and the rest is harmless. -/
private theorem harmless_cons {c : Char} {s : List Char} :
    Harmless (c :: s) ↔
      (c = '_' → String.ofList (s.takeWhile fun c => !isSeparator c) ∉ languageCodes) ∧
        Harmless s := by
  constructor
  · intro h
    refine ⟨fun hc => h [] s (by rw [hc]; rfl), fun before after hsplit => ?_⟩
    exact h (c :: before) after (by rw [hsplit]; rfl)
  · rintro ⟨hfirst, hmore⟩ before after hsplit
    -- either nothing is before the underscore, or `c` is
    cases before with
    | nil =>
      obtain ⟨rfl, rfl⟩ := List.cons.inj hsplit
      exact hfirst rfl
    | cons d before =>
      obtain ⟨rfl, rfl⟩ := List.cons.inj hsplit
      exact hmore before after rfl

instance decidableHarmless : (s : List Char) → Decidable (Harmless s)
  | [] => .isTrue harmless_nil
  | c :: s =>
    have := decidableHarmless s
    decidable_of_iff
      ((c = '_' → String.ofList (s.takeWhile fun c => !isSeparator c) ∉ languageCodes) ∧ Harmless s)
      harmless_cons.symm

/-- What stands before the first separator (`isSeparator`) does not change with what follows a
separator. -/
private theorem takeWhile_append_underscore (s rest : List Char) :
    (s ++ '_' :: rest).takeWhile (fun c => !isSeparator c) =
      s.takeWhile fun c => !isSeparator c := by
  induction s with
  | nil => simp [isSeparator]
  | cons c s ih =>
    rw [List.cons_append, List.takeWhile_cons, List.takeWhile_cons, ih]

/-- No underscore of a harmless (`Harmless`) text names a locale, when a tag and an extension
follow. -/
theorem Harmless.noneNamed {before tag extension : List Char} (h : Harmless before)
    (hextension : '.' ∉ extension) :
    NoneNamed before ('_' :: (tag ++ '.' :: extension)) := by
  rintro earlier later rfl l hl
  obtain ⟨hparse, hlanguage⟩ := names_iff.1 hl
  rw [hasKnownLanguage, List.contains_iff_mem] at hlanguage
  have hstem : beforeLastDot (later ++ '_' :: (tag ++ '.' :: extension)) = later ++ '_' :: tag := by
    have hshape : later ++ '_' :: (tag ++ '.' :: extension) =
        (later ++ '_' :: tag) ++ '.' :: extension := by
      simp
    rw [hshape, beforeLastDot_append hextension]
  rw [hstem] at hparse
  -- the language would be the piece behind this underscore
  rw [language_of_parse hparse, String.toList_ofList, takeWhile_append_underscore] at hlanguage
  exact h earlier later rfl hlanguage

/-- The tag of a locale of a known language is found behind every harmless (`Harmless`) text,
whatever the extension. A locale that is found in a file name is of a known language and keeps, with
underscores, what follows some underscore without the extension, and no earlier underscore is
followed by the tag of a locale of a known language; none is found if and only if no underscore is.
-/
theorem found_behind_harmless :
    (∀ (before tag extension : String) (l : Locale), parse tag = .ok l →
      l.language ∈ languageCodes → Harmless before.toList → '.' ∉ extension.toList →
      ofFilename? (before ++ "_" ++ tag ++ "." ++ extension) = some l) ∧
    (∀ (name : String) (l : Locale), ofFilename? name = some l ↔
      ∃ before rest stem, name.toList = before ++ '_' :: rest ∧ WithoutExtension rest stem ∧
        parse (String.ofList stem) = .ok l ∧ l.language ∈ languageCodes ∧
        l.tag = normalize (String.ofList stem) ∧ NoneNamed before ('_' :: rest)) ∧
    ∀ name : String, ofFilename? name = none ↔
      ∀ before rest, name.toList = before ++ '_' :: rest → ∀ l, ¬ Names rest l := by
  refine ⟨fun before tag extension l hparse hlanguage hbefore hextension => ?_, fun name l => ?_,
    fun name => ofSuffix?_eq_none_iff⟩
  · -- The first part: the tag and the extension stand behind the last underscore of the text.
    have hname : (before ++ "_" ++ tag ++ "." ++ extension).toList =
        before.toList ++ '_' :: (tag.toList ++ '.' :: extension.toList) := by
      simp [String.toList_append]
    have hparse' : parse (String.ofList tag.toList) = .ok l := by
      rw [String.ofList_toList]
      exact hparse
    have hnames : Names (tag.toList ++ '.' :: extension.toList) l :=
      ⟨tag.toList, .dotted hextension, hparse', hlanguage⟩
    rw [ofFilename?, hname]
    exact ofSuffix?_eq_some_iff.2 ⟨_, _, rfl, hnames, hbefore.noneNamed hextension⟩
  · refine ofSuffix?_eq_some_iff.trans ⟨?_, ?_⟩
    · rintro ⟨before, rest, hsplit, ⟨stem, hstem, hparse, hlanguage⟩, hnone⟩
      exact ⟨before, rest, stem, hsplit, hstem, hparse, hlanguage, (tag_of_parse hparse).1, hnone⟩
    · rintro ⟨before, rest, stem, hsplit, hstem, hparse, hlanguage, -, hnone⟩
      exact ⟨before, rest, hsplit, ⟨stem, hstem, hparse, hlanguage⟩, hnone⟩

/-- Behind a text that holds underscores, hyphens, dots and a language code before the first
underscore, the tag `pt-BR` is found. -/
theorem found_behind_harmless_portuguese :
    parse "pt-BR" = .ok ⟨"pt", none, some "BR", "pt_BR"⟩ ∧ Harmless "de.my-app_v2.x-en_".toList ∧
      ofFilename? "de.my-app_v2.x-en__pt-BR.arb" = some ⟨"pt", none, some "BR", "pt_BR"⟩ := by
  have hparse : parse "pt-BR" = .ok ⟨"pt", none, some "BR", "pt_BR"⟩ := by rfl
  have hbefore : Harmless "de.my-app_v2.x-en_".toList := by decide
  exact ⟨hparse, hbefore,
    found_behind_harmless.1 "de.my-app_v2.x-en_" "pt-BR" "arb" _ hparse (by decide) hbefore
      (by decide)⟩

end Parlance.Locale
