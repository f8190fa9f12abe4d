import Parlance.Code.Naming
import Parlance.Proofs.Message.Regularity
import Parlance.Proofs.Text.Casing

/-!
# Names and their identifiers

The identifier of a name of letters, digits and underscores is the name in lower case, with an
underscore more at every end of a word (`snakeChars_eq`). Where words end is told by the characters
around a position (`WordEnds`), and there are no ends of words in a text without capitals. So an
identifier is its own identifier, and apart from case and underscores it is the name
(`filter_snakeChars`). What can name a placeholder has an identifier, unless it is a keyword or
taken (`identifierOf_eq_error_iff`).
-/

namespace Parlance.Code

open Parlance.Grammar Parlance.Text

/-! ## Ends of words -/

/-- Whether a word of a text ends with the character at a position: a small letter or a digit with a
capital behind it, or a capital with another one behind it which a small letter follows. -/
def WordEnds (s : List Char) (i : Nat) : Prop :=
  ∃ b ∈ s[i]?, ∃ c ∈ s[i + 1]?, c.isUpper = true ∧
    (b.isLower = true ∨ b.isDigit = true ∨
      (b.isUpper = true ∧ ∃ d ∈ s[i + 2]?, d.isLower = true))

instance decidableWordEnds (s : List Char) (i : Nat) : Decidable (WordEnds s i) :=
  inferInstanceAs (Decidable (∃ b ∈ s[i]?, ∃ c ∈ s[i + 1]?, c.isUpper = true ∧
    (b.isLower = true ∨ b.isDigit = true ∨
      (b.isUpper = true ∧ ∃ d ∈ s[i + 2]?, d.isLower = true))))

/-- A text with an underscore behind every character with which a word ends. -/
def wordsApart (s : List Char) : List Char :=
  s.zipIdx.flatMap fun p => if WordEnds s p.2 then [p.1, '_'] else [p.1]

/-- The first character gets an underscore if a word ends with it (`WordEnds`). -/
private theorem wordsApart_cons (c : Char) (s : List Char) :
    wordsApart (c :: s) =
      (if WordEnds (c :: s) 0 then [c, '_'] else [c]) ++ wordsApart s := by
  rw [wordsApart, List.zipIdx_cons, List.flatMap_cons, List.zipIdx_succ, List.flatMap_map]
  rfl

/-- A word starts (`startsWord`) behind the character with which the last one ends. -/
private theorem startsWord_iff (b c : Char) (rest : List Char) :
    startsWord (some b) c rest.head? = true ↔ WordEnds (b :: c :: rest) 0 := by
  cases rest with
  | nil => simp [startsWord, WordEnds]
  | cons d rest => simp [startsWord, WordEnds, or_assoc]

/-- Behind a character the words are taken apart (`splitWords`) as they are in the text with the
character. -/
private theorem cons_splitWords (b : Char) (s : List Char) :
    b :: splitWords (some b) s = wordsApart (b :: s) := by
  induction s generalizing b with
  | nil =>
    have hnone : ¬ WordEnds [b] 0 := by simp [WordEnds]
    rw [wordsApart_cons, if_neg hnone]
    rfl
  | cons c rest ih =>
    rw [wordsApart_cons, ← ih c, splitWords]
    -- the character before the tail carries over what the tail needs to know
    by_cases hstarts : startsWord (some b) c rest.head? = true
    · rw [if_pos hstarts, if_pos ((startsWord_iff b c rest).1 hstarts)]
      rfl
    · rw [if_neg hstarts, if_neg fun hends => hstarts ((startsWord_iff b c rest).2 hends)]
      rfl

/-- Words are taken apart where they end (`wordsApart`). -/
private theorem splitWords_eq (s : List Char) : splitWords none s = wordsApart s := by
  cases s with
  | nil => rfl
  | cons c rest => exact cons_splitWords c rest

/-- Without capitals all of a text is one word (`splitWords`). -/
private theorem splitWords_eq_self {s : List Char} (h : ∀ c ∈ s, c.isUpper = false)
    (before : Option Char) : splitWords before s = s := by
  induction s generalizing before with
  | nil => rfl
  | cons c rest ih =>
    obtain ⟨hc, hrest⟩ := List.forall_mem_cons.1 h
    have hstarts : startsWord before c rest.head? = false := by
      cases before <;> simp [startsWord, hc]
    rw [splitWords, if_neg (by rw [hstarts]; decide), ih hrest]

/-! ## Letters, digits and underscores -/

/-- Whether a text has ASCII letters, digits and underscores only. -/
def IsPlainName (name : String) : Prop := ∀ c ∈ name.toList, isAsciiWordChar c = true

instance decidableIsPlainName (name : String) : Decidable (IsPlainName name) :=
  decidable_of_iff (name.toList.all isAsciiWordChar = true) List.all_eq_true

/-- A text without its underscores. -/
def withoutUnderscores (s : String) : String := String.ofList (s.toList.filter (· != '_'))

/-- Whether two texts are equal but for case and underscores. -/
def SameLetters (a b : String) : Prop :=
  withoutUnderscores (lower a) = withoutUnderscores (lower b)

/-- The characters of words (`isAsciiWordChar`) are of ASCII. -/
private theorem ascii_of_wordChar {c : Char} (h : isAsciiWordChar c = true) : c.toNat < 128 := by
  have hrange := Token.word_char_range h
  omega

/-- Lower case turns nothing into an underscore and no underscore into anything else. -/
private theorem toLower_ne_underscore {c : Char} (h : c.toNat < 128) :
    (c.toLower != '_') = (c != '_') :=
  of_toNat_lt (P := fun c => (c.toLower != '_') = (c != '_')) (by decide) h

/-- Lower case leaves no capitals of ASCII. -/
private theorem isUpper_toLower {c : Char} (h : c.toNat < 128) : c.toLower.isUpper = false :=
  of_toNat_lt (P := fun c => c.toLower.isUpper = false) (by decide) h

/-- Lower case changes nothing the second time. -/
private theorem toLower_toLower {c : Char} (h : c.toNat < 128) : c.toLower.toLower = c.toLower :=
  of_toNat_lt (P := fun c => c.toLower.toLower = c.toLower) (by decide) h

/-- In lower case a character of a word (`isAsciiWordChar`) is one still. -/
private theorem isAsciiWordChar_toLower {c : Char} (h : isAsciiWordChar c = true) :
    isAsciiWordChar c.toLower = true :=
  of_toNat_lt (P := fun c => isAsciiWordChar c = true → isAsciiWordChar c.toLower = true)
    (by decide) (ascii_of_wordChar h) h

/-- The characters of words may stand in identifiers (`isIdentifierPart`). -/
private theorem isIdentifierPart_of_wordChar {c : Char} (h : isAsciiWordChar c = true) :
    isIdentifierPart c = true := by
  rw [isIdentifierPart, if_pos (ascii_of_wordChar h)]
  exact h

/-- A character of a word may begin an identifier (`isIdentifierStart`), if it is no digit, and so
in lower case. -/
private theorem isIdentifierStart_toLower {c : Char} (h : isAsciiWordChar c = true)
    (hdigit : c.isDigit = false) : isIdentifierStart c.toLower = true :=
  of_toNat_lt (P := fun c => isAsciiWordChar c = true → c.isDigit = false →
    isIdentifierStart c.toLower = true) (by decide) (ascii_of_wordChar h) h hdigit

/-! ## Names in lower case -/

section

variable {s : List Char} (h : ∀ c ∈ s, isAsciiWordChar c = true)

include h

/-- Taking words apart (`splitWords`) adds nothing but underscores. -/
private theorem isAsciiWordChar_of_mem_splitWords : ∀ c ∈ splitWords none s, isAsciiWordChar c =
    true := by
  intro c hc
  rcases mem_of_mem_splitWords hc with rfl | hmem
  · decide
  · exact h c hmem

/-- For these characters the lower (`lowerChars`) case of Unicode is that of ASCII. -/
private theorem lowerChars_of_wordChars : lowerChars s = s.map Char.toLower :=
  lowerChars_ascii fun c hc => ascii_of_wordChar (h c hc)

/-- `snakeChars` takes the words apart and puts them into lower case. -/
private theorem snakeChars_eq_map : snakeChars s = (splitWords none s).map Char.toLower :=
  lowerChars_of_wordChars (isAsciiWordChar_of_mem_splitWords h)

/-- A name in lower case has an underscore more where a word ends (`wordsApart`). -/
theorem snakeChars_eq : snakeChars s = (wordsApart s).map Char.toLower := by
  rw [snakeChars_eq_map h, splitWords_eq]

/-- An identifier (`snakeChars`) consists of letters, digits and underscores again. -/
private theorem isAsciiWordChar_of_mem_snakeChars : ∀ c ∈ snakeChars s, isAsciiWordChar c = true :=
    by
  rw [snakeChars_eq_map h]
  refine List.forall_mem_map.2 fun c hc => ?_
  exact isAsciiWordChar_toLower (isAsciiWordChar_of_mem_splitWords h c hc)

/-- The underscores apart, a name is put into lower case (`lowerChars`) and nothing else. -/
theorem filter_snakeChars :
    (snakeChars s).filter (· != '_') = (lowerChars s).filter (· != '_') := by
  have hlower : ∀ t : List Char, (∀ c ∈ t, isAsciiWordChar c = true) →
      (t.map Char.toLower).filter (· != '_') = (t.filter (· != '_')).map Char.toLower := by
    intro t ht
    rw [List.filter_map]
    congr 1
    exact List.filter_congr fun c hc => toLower_ne_underscore (ascii_of_wordChar (ht c hc))
  rw [snakeChars_eq_map h, lowerChars_of_wordChars h, hlower _ h,
    hlower _ (isAsciiWordChar_of_mem_splitWords h), filter_splitWords]

/-- A name in lower case stays as it is (`snakeChars`). -/
private theorem snakeChars_snakeChars : snakeChars (snakeChars s) = snakeChars s := by
  have hword := isAsciiWordChar_of_mem_splitWords h
  have hsmall : ∀ c ∈ snakeChars s, c.isUpper = false := by
    rw [snakeChars_eq_map h]
    exact List.forall_mem_map.2 fun c hc => isUpper_toLower (ascii_of_wordChar (hword c hc))
  rw [snakeChars_eq_map (isAsciiWordChar_of_mem_snakeChars h), splitWords_eq_self hsmall,
    snakeChars_eq_map h, List.map_map]
  exact List.map_congr_left fun c hc => toLower_toLower (ascii_of_wordChar (hword c hc))

/-- A name that is not empty and starts with no digit is an identifier (`isIdentifierChars`) in
lower case. -/
private theorem isIdentifierChars_snakeChars (hne : s ≠ [])
    (hdigit : ∀ c ∈ s.head?, c.isDigit = false) : isIdentifierChars (snakeChars s) = true := by
  cases s with
  | nil => exact absurd rfl hne
  | cons c rest =>
    have hparts := isAsciiWordChar_of_mem_snakeChars h
    -- no word ends before the first character
    have hfirst : snakeChars (c :: rest) =
        c.toLower :: (splitWords (some c) rest).map Char.toLower := snakeChars_eq_map h
    rw [hfirst] at hparts ⊢
    obtain ⟨-, hrest⟩ := List.forall_mem_cons.1 hparts
    rw [isIdentifierChars, Bool.and_eq_true, List.all_eq_true]
    exact ⟨isIdentifierStart_toLower (h c List.mem_cons_self) (hdigit c rfl),
      fun d hd => isIdentifierPart_of_wordChar (hrest d hd)⟩

end

/-! ## Identifiers -/

/-- The identifier (`isIdentifier`) of a plain name is one, unless the name is empty or starts with
a digit. -/
private theorem isIdentifier_snakeCase {name : String} (h : IsPlainName name) (hne : name ≠ "")
    (hdigit : ∀ c ∈ name.toList.head?, c.isDigit = false) :
    isIdentifier (snakeCase name) = true := by
  rw [isIdentifier, snakeCase, String.toList_ofList]
  exact isIdentifierChars_snakeChars h (String.toList_eq_nil_iff.not.2 hne) hdigit

/-- What can name a placeholder has no identifier (`identifierOf`) if and only if it is a keyword or
taken. -/
theorem identifierOf_eq_error_iff {name : String} (h : IsNameText name) {kind : String}
    {reserved : List String} {f : Fault} :
    identifierOf kind name reserved = .error f ↔
      (isKeyword (snakeCase name) = true ∧ f = .invalidIdentifier kind name (snakeCase name)) ∨
      (isKeyword (snakeCase name) = false ∧ snakeCase name ∈ reserved ∧
        f = .reservedIdentifier kind name (snakeCase name)) := by
  obtain ⟨⟨hne, hword⟩, hdigit⟩ := h
  have hidentifier := isIdentifier_snakeCase hword (String.toList_eq_nil_iff.not.1 hne) hdigit
  simp only [identifierOf, hidentifier, Bool.not_true, Bool.false_or, List.contains_iff_mem]
  cases isKeyword (snakeCase name) with
  | true => simp [eq_comm]
  | false =>
    by_cases hreserved : snakeCase name ∈ reserved
    · simp [hreserved, eq_comm]
    · simp [hreserved]

/-- A name that occurs (`Occurs`) in a message that is read can name a placeholder. -/
private theorem isNameText_of_occurs {options : ReadingOptions} {text : String} {m : Message}
    (hparse : Message.parse options text = .ok m) {name : String} {use : Use}
    (h : Occurs m name use) : IsNameText name := by
  obtain ⟨n, hn, huse⟩ := h
  have hregular := (regular_of_wellFormed (wellFormed_of_parse hparse).1).nodes n hn
  -- text has no name, and the other nodes have a regular one
  cases n with
  | text => cases huse
  | reference own span =>
    cases huse
    exact hregular
  | choice kind own branches span =>
    cases kind <;> cases huse <;> exact hregular.1
  | argument own kind skeleton span =>
    cases huse
    exact hregular

/-- But for underscores, the identifier of a name (`snakeCase`) is the name in lower case. -/
private theorem withoutUnderscores_snakeCase {name : String} (h : IsPlainName name) :
    withoutUnderscores (snakeCase name) = withoutUnderscores (lower name) := by
  rw [withoutUnderscores, snakeCase, String.toList_ofList, filter_snakeChars h, withoutUnderscores,
    lower, String.toList_ofList]

/-- Names that share an identifier are equal but for case and underscores (`SameLetters`). -/
private theorem sameLetters_of_snakeCase_eq {a b : String} (ha : IsPlainName a) (hb : IsPlainName b)
    (h : snakeCase a = snakeCase b) : SameLetters a b := by
  rw [SameLetters, ← withoutUnderscores_snakeCase ha, ← withoutUnderscores_snakeCase hb, h]

/-- Names are refused (`checkUnique`) only if they share an identifier. -/
private theorem exists_names_of_checkUnique {kind : String} {identifiers : Assoc String} {f : Fault}
    (hnames : ∀ p ∈ identifiers, p.2 = snakeCase p.1)
    (h : checkUnique kind identifiers = .error f) :
    ∃ identifier names, f = .duplicateIdentifier kind identifier names ∧ 1 < names.length ∧
      ∀ name ∈ names, name ∈ identifiers.map (·.1) ∧ snakeCase name = identifier := by
  unfold checkUnique at h
  split at h
  · next p hfind =>
    cases h
    refine ⟨p.2, namesOf identifiers p.2, rfl, by simpa using List.find?_some hfind, ?_⟩
    refine List.forall_mem_map.2 fun q hq => ?_
    obtain ⟨hmem, hsame⟩ := List.mem_filter.1 hq
    exact ⟨List.mem_map_of_mem hmem, (hnames q hmem).symm.trans (eq_of_beq hsame)⟩
  · cases h

/-- Of a text of letters, digits and underscores, the identifier (`snakeCase`) is the text in lower
case with an underscore more where a word ends, and nothing but case and underscores changes; it is
its own identifier, and it is one indeed, unless the text is empty or starts with a digit. So a name
in a message that is read has none only if it is a keyword or taken, and names that share one, as
those that are refused, are equal but for case and underscores. -/
theorem snakeCase_lowers_and_separates :
    (∀ name, IsPlainName name →
      withoutUnderscores (snakeCase name) = withoutUnderscores (lower name) ∧
      (snakeCase name).toList = (wordsApart name.toList).map Char.toLower ∧
      snakeCase (snakeCase name) = snakeCase name ∧
      (name ≠ "" → (∀ c ∈ name.toList.head?, c.isDigit = false) →
        isIdentifier (snakeCase name) = true)) ∧
    (∀ options text m name use, Message.parse options text = .ok m → Occurs m name use →
      ∀ kind reserved f, identifierOf kind name reserved = .error f ↔
        (isKeyword (snakeCase name) = true ∧ f = .invalidIdentifier kind name (snakeCase name)) ∨
        (isKeyword (snakeCase name) = false ∧ snakeCase name ∈ reserved ∧
          f = .reservedIdentifier kind name (snakeCase name))) ∧
    (∀ a b, IsPlainName a → IsPlainName b → snakeCase a = snakeCase b → SameLetters a b) ∧
    ∀ kind (identifiers : Assoc String) f,
      (∀ p ∈ identifiers, IsPlainName p.1 ∧ p.2 = snakeCase p.1) →
      checkUnique kind identifiers = .error f →
      ∃ identifier names, f = .duplicateIdentifier kind identifier names ∧ 1 < names.length ∧
        ∀ a ∈ names, ∀ b ∈ names, SameLetters a b := by
  refine ⟨fun name h => ⟨withoutUnderscores_snakeCase h, ?_, ?_, isIdentifier_snakeCase h⟩,
    fun options text m name use hparse hoccurs kind reserved f =>
      identifierOf_eq_error_iff (isNameText_of_occurs hparse hoccurs),
    fun a b => sameLetters_of_snakeCase_eq, fun kind identifiers f hplain hrefused => ?_⟩
  · rw [snakeCase, String.toList_ofList, snakeChars_eq h]
  · rw [snakeCase, snakeCase, String.toList_ofList, snakeChars_snakeChars h]
  · -- the names of a refusal are all spelled with one identifier
    obtain ⟨identifier, names, rfl, hlength, hnames⟩ :=
      exists_names_of_checkUnique (fun p hp => (hplain p hp).2) hrefused
    refine ⟨identifier, names, rfl, hlength, fun a ha b hb => ?_⟩
    have hword : ∀ name ∈ names, IsPlainName name := fun name hname => by
      obtain ⟨p, hp, rfl⟩ := List.mem_map.1 (hnames name hname).1
      exact (hplain p hp).1
    exact sameLetters_of_snakeCase_eq (hword a ha) (hword b hb)
      ((hnames a ha).2.trans (hnames b hb).2.symm)

/-- Capitals before a word and behind a digit each start a word of their own, and other names have
the same identifier (`snakeCase`). -/
theorem snakeCase_lowers_and_separates_server :
    IsPlainName "HTTPServer2X_" ∧ snakeCase "HTTPServer2X_" = "http_server2_x_" ∧
    withoutUnderscores "http_server2_x_" = withoutUnderscores (lower "HTTPServer2X_") ∧
    snakeCase "http_server2_x_" = "http_server2_x_" ∧ isIdentifier "http_server2_x_" = true ∧
    Message.parse ⟨⟨true, "'"⟩, none, ReadingOptions.defaultLimit⟩ "\x7bHTTPServer2X_\x7d" =
      .ok [.reference "HTTPServer2X_" ⟨0, 15⟩] ∧
    Occurs [.reference "HTTPServer2X_" ⟨0, 15⟩] "HTTPServer2X_" .plain ∧
    identifierOf "placeholder" "HTTPServer2X_" ["http_server2_x_"] =
      .error (.reservedIdentifier "placeholder" "HTTPServer2X_" "http_server2_x_") ∧
    snakeCase "httpServer2_x_" = "http_server2_x_" ∧
    SameLetters "HTTPServer2X_" "httpServer2_x_" ∧
    checkUnique "placeholder"
      [("httpServer2_x_", "http_server2_x_"), ("HTTPServer2X_", "http_server2_x_")] =
      .error (.duplicateIdentifier "placeholder" "http_server2_x_"
        ["httpServer2_x_", "HTTPServer2X_"]) ∧
    SameLetters "httpServer2_x_" "HTTPServer2X_" := by
  obtain ⟨hnames, hread, hshared, hrefused⟩ := snakeCase_lowers_and_separates
  have hplain : IsPlainName "HTTPServer2X_" := by decide
  have hother : IsPlainName "httpServer2_x_" := by decide
  have hsnake : snakeCase "HTTPServer2X_" = "http_server2_x_" := by decide +kernel
  have hsame : snakeCase "httpServer2_x_" = "http_server2_x_" := by decide +kernel
  have hdigit : ∀ c ∈ "HTTPServer2X_".toList.head?, c.isDigit = false := by
    have hhead : "HTTPServer2X_".toList.head? = some 'H' := rfl
    rw [hhead]
    rintro c ⟨⟩
    rfl
  have hparse : Message.parse ⟨⟨true, "'"⟩, none, ReadingOptions.defaultLimit⟩
      "\x7bHTTPServer2X_\x7d" = .ok [.reference "HTTPServer2X_" ⟨0, 15⟩] := by decide +kernel
  have hoccurs : Occurs [.reference "HTTPServer2X_" ⟨0, 15⟩] "HTTPServer2X_" .plain :=
    ⟨_, .top List.mem_cons_self, rfl⟩
  have hunique : checkUnique "placeholder"
      [("httpServer2_x_", "http_server2_x_"), ("HTTPServer2X_", "http_server2_x_")] =
      .error (.duplicateIdentifier "placeholder" "http_server2_x_"
        ["httpServer2_x_", "HTTPServer2X_"]) := by decide +kernel
  obtain ⟨hletters, -, hagain, hidentifier⟩ := hnames _ hplain
  -- the name is plain and begins with no digit, so all of the first part applies to it
  rw [hsnake] at hletters hagain hidentifier
  refine ⟨hplain, hsnake, hletters, hagain, hidentifier (by decide +kernel) hdigit,
    hparse, hoccurs, ?_, hsame, hshared _ _ hplain hother (hsnake.trans hsame.symm), hunique, ?_⟩
  · refine (hread _ _ _ _ _ hparse hoccurs _ _ _).2 (.inr ?_)
    rw [hsnake]
    exact ⟨by decide +kernel, List.mem_cons_self, rfl⟩
  · -- two names that become one are refused together
    have hpairs : ∀ p ∈ [("httpServer2_x_", "http_server2_x_"),
        ("HTTPServer2X_", "http_server2_x_")], IsPlainName p.1 ∧ p.2 = snakeCase p.1 := by
      simp only [List.forall_mem_cons]
      exact ⟨⟨hother, hsame.symm⟩, ⟨hplain, hsnake.symm⟩, List.forall_mem_nil _⟩
    obtain ⟨identifier, names, hfault, -, hall⟩ := hrefused _ _ _ hpairs hunique
    cases hfault
    exact hall _ List.mem_cons_self _ (List.mem_cons_of_mem _ List.mem_cons_self)

end Parlance.Code
