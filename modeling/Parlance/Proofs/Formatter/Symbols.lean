import Mathlib.Data.List.Chain
import Parlance.Formatter.Number
import Parlance.Proofs.Number.Fractions

/-!
# Currency symbols of one's own

The pattern of an amount with a symbol and a number of digits of its own is made in two steps: the
quoted symbol goes into the standard pattern, and then the digits are set, in the symbol as well. A
reader of the pattern (`readMarks`) therefore finds the symbol with its digits set
(`readMarks_customPattern`), and of a symbol of apostrophes alone one apostrophe too many. It finds
the symbol itself if and only if there is another character in the symbol and setting the digits
leaves it as it is (`keepsSymbol_iff`). It does so for every number of digits if and only if no zero
of the symbol ends an integer part (`forall_keepsSymbol_iff`).
-/

namespace Parlance

open Parlance.Number

/-! ## Patterns read with their quotes -/

/-- A character of a pattern, as it is read. -/
inductive Mark where
  /-- A character with the meaning it has in patterns. -/
  | plain (c : Char)
  /-- A character that stands for itself. -/
  | literal (c : Char)
deriving DecidableEq, Repr

/-- The characters of a pattern, read inside or outside of apostrophes: a text between apostrophes
is literal, and two apostrophes are one. -/
def readMarks : Bool → List Char → List Mark
  | _, [] => []
  | quoted, '\'' :: '\'' :: rest => .literal '\'' :: readMarks quoted rest
  | quoted, '\'' :: rest => readMarks (!quoted) rest
  | quoted, c :: rest => (if quoted then .literal c else .plain c) :: readMarks quoted rest

/-- Two apostrophes stand for one (`readMarks`), inside and outside of a quoted text. -/
private theorem readMarks_doubled (quoted : Bool) (rest : List Char) :
    readMarks quoted ('\'' :: '\'' :: rest) = .literal '\'' :: readMarks quoted rest := by
  simp only [readMarks]

/-- A single apostrophe opens or closes a quoted text (`readMarks`). -/
private theorem readMarks_apostrophe (quoted : Bool) {rest : List Char} (h : rest.head? ≠ some '\'')
    : readMarks quoted ('\'' :: rest) = readMarks (!quoted) rest := by
  cases rest with
  | nil => rfl
  | cons c rest =>
    rw [readMarks]
    rintro _ ⟨⟩
    exact h rfl

/-- Any other character is literal inside of apostrophes (`Mark.literal`), and plain outside. -/
private theorem readMarks_cons (quoted : Bool) {c : Char} (hc : c ≠ '\'') (rest : List Char) :
    readMarks quoted (c :: rest) =
      (if quoted then .literal c else .plain c) :: readMarks quoted rest := by
  rw [readMarks]
  · rintro _ rfl
    exact absurd rfl hc
  · rintro rfl
    exact absurd rfl hc

/-- A text without apostrophes is read as it stands (`readMarks`). -/
private theorem readMarks_plain {s : List Char} (hs : ∀ c ∈ s, c ≠ '\'') (rest : List Char) :
    readMarks false (s ++ rest) = s.map Mark.plain ++ readMarks false rest := by
  induction s with
  | nil => rfl
  | cons c s ih =>
    obtain ⟨hc, hs⟩ := List.forall_mem_cons.1 hs
    rw [List.cons_append, readMarks_cons false hc, ih hs]
    rfl

/-! ## Quoted texts -/

/-- What a reader finds of a quoted text: the apostrophes at its beginning are read before the quote
begins, and if nothing follows them, the quote is read as one more. -/
def shown : List Char → List Char
  | [] => ['\'']
  | c :: s => if c = '\'' then '\'' :: shown s else c :: s

/-- A text with some character but apostrophes is shown (`shown`) as it is. -/
theorem shown_eq_self {s : List Char} (h : ∃ c ∈ s, c ≠ '\'') : shown s = s := by
  induction s with
  | nil => simp at h
  | cons c s ih =>
    rw [shown]
    split
    · next hc =>
      subst hc
      rw [ih (by simpa using h)]
    · rfl

/-- A text of apostrophes only is shown (`shown`) with one more. -/
theorem shown_of_apostrophes {s : List Char} (h : ∀ c ∈ s, c = '\'') : shown s = '\'' :: s := by
  induction s with
  | nil => rfl
  | cons c s ih =>
    obtain ⟨rfl, hs⟩ := List.forall_mem_cons.1 h
    rw [shown, if_pos rfl, ih hs]

/-- A text is found again (`shown`) after its digits were set if and only if it has another
character than apostrophes and its digits are as they were. -/
theorem shown_withFractionDigitsChars_iff {digits : Int} {s : List Char} :
    shown (withFractionDigitsChars digits s) = s ↔
      (∃ c ∈ s, c ≠ '\'') ∧ withFractionDigitsChars digits s = s := by
  constructor
  · intro h
    by_cases hsome : ∃ c ∈ withFractionDigitsChars digits s, c ≠ '\''
    · rw [shown_eq_self hsome] at h
      exact ⟨by rwa [h] at hsome, h⟩
    · -- A text of apostrophes only is shown longer than it is, and has no digit to set.
      push Not at hsome
      rw [shown_of_apostrophes hsome] at h
      have hzero : '0' ∉ s := by
        rw [← h, List.mem_cons, not_or]
        exact ⟨by decide, fun hmem => absurd (hsome _ hmem) (by decide)⟩
      rw [withFractionDigitsChars_of_notMem hzero] at h
      exact absurd h (List.cons_ne_self _ _)
  · rintro ⟨hsome, hself⟩
    rw [hself, shown_eq_self hsome]

namespace Currency

/-- A text with each apostrophe in it doubled. -/
def doubled (s : List Char) : List Char :=
  s.flatMap fun c => if c = '\'' then ['\'', '\''] else [c]

/-- A quoted (`quotedText`) text is the doubled one between apostrophes. -/
private theorem quotedText_eq (s : List Char) : quotedText s = '\'' :: (doubled s ++ ['\'']) := rfl

/-- A text is doubled (`doubled`) character by character. -/
private theorem doubled_cons (c : Char) (s : List Char) :
    doubled (c :: s) = (if c = '\'' then ['\'', '\''] else [c]) ++ doubled s := rfl

/-- Inside of apostrophes, a doubled (`doubled`) text is literal up to the apostrophe behind it. -/
theorem readMarks_doubled_append (s : List Char) {rest : List Char} (h : rest.head? ≠ some '\'') :
    readMarks true (doubled s ++ '\'' :: rest) = s.map Mark.literal ++ readMarks false rest := by
  induction s with
  | nil => exact readMarks_apostrophe true h
  | cons c s ih =>
    rw [doubled_cons, List.append_assoc]
    split
    · next hc => rw [hc, List.cons_append, List.cons_append, List.nil_append, readMarks_doubled, ih,
        List.map_cons, List.cons_append]
    · next hc => rw [List.singleton_append, readMarks_cons true hc, ih, List.map_cons,
        List.cons_append, if_pos rfl]

/-- A quoted text is read as what is `shown` of it, unless an apostrophe follows. -/
theorem readMarks_quotedText (s : List Char) {rest : List Char} (h : rest.head? ≠ some '\'') :
    readMarks false (quotedText s ++ rest) =
      (shown s).map Mark.literal ++ readMarks false rest := by
  rw [quotedText_eq, List.cons_append, List.append_assoc, List.singleton_append]
  induction s with
  | nil => exact readMarks_doubled false rest
  | cons c s ih =>
    rw [doubled_cons, shown]
    split
    · next hc =>
      -- The quote and the first of the two apostrophes are one, and the second begins the quote.
      rw [List.append_assoc, List.cons_append, List.singleton_append, readMarks_doubled, ih,
        List.map_cons, List.cons_append]
    · next hc =>
      rw [List.append_assoc, List.singleton_append, readMarks_apostrophe false (by simpa using hc),
        Bool.not_false, readMarks_cons true hc, readMarks_doubled_append s h, if_pos rfl,
        List.map_cons, List.cons_append]

/-! ## Digits in a quoted text -/

/-- Doubling apostrophes (`doubled`) keeps the characters of numbers. -/
private theorem keepsNumbers_doubled : KeepsNumbers fun c => if c = '\'' then ['\'', '\''] else [c]
    where
  number c hc := if_neg (by rintro rfl; cases hc)
  first c hc := by
    split
    · exact ⟨'\'', ['\''], rfl, rfl⟩
    · exact ⟨c, [], rfl, hc⟩
  last c hc := by
    split
    · exact ⟨['\''], '\'', rfl, rfl⟩
    · exact ⟨[], c, rfl, hc⟩

/-- Putting a text in the place of the sign (`quotedText`) keeps the characters of numbers. -/
private theorem keepsNumbers_symbol (s : List Char) :
    KeepsNumbers fun c => if c = sign then quotedText s else [c] where
  number c hc := if_neg (by rintro rfl; cases hc)
  first c hc := by
    split
    · exact ⟨'\'', doubled s ++ ['\''], rfl, rfl⟩
    · exact ⟨c, [], rfl, hc⟩
  last c hc := by
    split
    · exact ⟨'\'' :: doubled s, '\'', rfl, rfl⟩
    · exact ⟨[], c, rfl, hc⟩

variable {digits : Int}

/-- Setting digits goes through the quotation (`quotedText`): the digits of a quoted text are set in
the text. -/
theorem withFractionDigitsChars_quotedText (s : List Char) :
    withFractionDigitsChars digits (quotedText s) =
      quotedText (withFractionDigitsChars digits s) := by
  -- doubling the apostrophes neither makes nor breaks a number
  have hdoubled : withFractionDigitsChars digits (doubled s) =
      doubled (withFractionDigitsChars digits s) := by
    refine withFractionDigitsChars_flatMap keepsNumbers_doubled keepsNumbers_doubled.number ?_ s
    intro c hc
    refine (withFractionDigitsChars_of_notMem ?_).symm
    split
    · decide
    · rw [List.mem_singleton]
      rintro rfl
      cases hc
  rw [quotedText_eq, withFractionDigitsChars_cons (by decide),
    withFractionDigitsChars_append_cons _ rfl, withFractionDigitsChars_nil, hdoubled, quotedText_eq]

/-- The digits are set (`withFractionDigitsChars`) in the symbol as well as in the pattern. -/
theorem withFractionDigitsChars_withSymbolChars (symbol pattern : List Char) :
    withFractionDigitsChars digits (withSymbolChars symbol pattern) =
      withSymbolChars (withFractionDigitsChars digits symbol)
        (withFractionDigitsChars digits pattern) := by
  refine withFractionDigitsChars_flatMap (keepsNumbers_symbol symbol)
    (keepsNumbers_symbol _).number (fun c hc => ?_) pattern
  split
  · exact (withFractionDigitsChars_quotedText symbol).symm
  · refine (withFractionDigitsChars_of_notMem ?_).symm
    rw [List.mem_singleton]
    rintro rfl
    cases hc

/-- Whether there is memory for the pattern with a symbol and so many digits. -/
def HasRoomFor (fits : Nat → Bool) (standard symbol : String) (digits : Int) : Prop :=
  HasRoom fits (withSymbol standard symbol) digits

/-- A pattern with a symbol and digits is made (`customPattern`) if a text can have so many digits
and there is memory for it. -/
theorem customPattern_eq_ok_iff {fits : Nat → Bool} {standard symbol pattern : String} :
    customPattern fits standard (some symbol) (some digits) = .ok pattern ↔
      (digits ≤ longestText ∧ HasRoomFor fits standard symbol digits) ∧
        pattern.toList = withSymbolChars (withFractionDigitsChars digits symbol.toList)
          (withFractionDigitsChars digits standard.toList) := by
  rw [← withFractionDigitsChars_withSymbolChars, and_assoc]
  have hchars : (withSymbol standard symbol).toList =
      withSymbolChars symbol.toList standard.toList := String.toList_ofList
  rw [← hchars]
  exact withFractionDigits?_eq_ok_iff

/-- A pattern is made wherever there is room for it (`HasRoomFor`). -/
theorem exists_customPattern_eq_ok (fits : Nat → Bool) (standard symbol : String)
    (hlongest : digits ≤ longestText) (hroom : HasRoomFor fits standard symbol digits) :
    ∃ pattern, customPattern fits standard (some symbol) (some digits) = .ok pattern :=
  ⟨_, customPattern_eq_ok_iff.2 ⟨⟨hlongest, hroom⟩, String.toList_ofList⟩⟩

end Currency

/-! ## Layouts of patterns -/

/-- A part of a currency pattern. -/
inductive PatternPart where
  /-- A character that is no part of a number and no sign. -/
  | text (c : Char)
  /-- The place of the currency sign. -/
  | sign
  /-- A number: the placeholders before its last integer digit, and those of its fraction. -/
  | number (leading fraction : List Char)
deriving DecidableEq, Repr

namespace PatternPart

/-- The characters of a part. -/
def chars : PatternPart → List Char
  | text c => [c]
  | sign => [Currency.sign]
  | number leading fraction => showing leading fraction

/-- Whether a part is spelled with the characters of its kind. -/
def IsSpelled : PatternPart → Prop
  | text c => continuesNumber c = false ∧ c ≠ '\'' ∧ c ≠ Currency.sign
  | sign => True
  | number leading fraction =>
    (∀ c ∈ leading, IsLeading c) ∧ ∀ c ∈ fraction, isFractionPlaceholder c = true

instance decidableIsSpelled : (part : PatternPart) → Decidable part.IsSpelled
  | text _ => inferInstanceAs (Decidable (_ ∧ _))
  | sign => inferInstanceAs (Decidable True)
  -- The characters of the lists are gone through, not all that there are.
  | number _ _ => @instDecidableAnd _ _ (List.decidableBAll _ _) (List.decidableBAll _ _)

/-- Whether a part may stand before another one: neither two numbers nor two signs stand
together. -/
def Precedes : PatternPart → PatternPart → Prop
  | number _ _, number _ _ => False
  | sign, sign => False
  | _, _ => True

instance decidablePrecedes : (part next : PatternPart) → Decidable (part.Precedes next)
  | number _ _, number _ _ | sign, sign => inferInstanceAs (Decidable False)
  | number _ _, text _ | number _ _, sign => inferInstanceAs (Decidable True)
  | sign, text _ | sign, number _ _ => inferInstanceAs (Decidable True)
  | text _, text _ | text _, sign | text _, number _ _ => inferInstanceAs (Decidable True)

/-- A part with so many digits after the point, if it is a number. -/
def setDigits (digits : Int) : PatternPart → PatternPart
  | number leading _ => number leading (List.replicate digits.toNat '0')
  | part => part

/-- A part with a quoted text in the place of the sign. -/
def written (symbol : List Char) : PatternPart → List Char
  | sign => Currency.quotedText symbol
  | part => part.chars

/-- A part as it is read, with a literal text in the place of the sign. -/
def marks (symbol : List Char) : PatternPart → List Mark
  | sign => symbol.map .literal
  | part => part.chars.map .plain

/-- Every part but the sign is written (`written`) as its characters. -/
private theorem written_of_ne {part : PatternPart} (h : part ≠ sign) (symbol : List Char) :
    part.written symbol = part.chars := by
  cases part <;> first | rfl | contradiction

/-- Every part but the sign is read as its characters (`marks`). -/
private theorem marks_of_ne {part : PatternPart} (h : part ≠ sign) (symbol : List Char) :
    part.marks symbol = part.chars.map .plain := by
  cases part <;> first | rfl | contradiction

/-- All characters of a number continue (`continuesNumber`) one. -/
private theorem continuesNumber_of_mem_showing {leading fraction : List Char}
    (h : (number leading fraction).IsSpelled) {c : Char} (hc : c ∈ showing leading fraction) :
    continuesNumber c = true := by
  rw [showing, List.mem_append, List.mem_cons] at hc
  -- before the last zero, the zero itself, or in the fraction
  obtain hc | rfl | hc := hc
  · obtain rfl | rfl | rfl := h.1 c hc <;> rfl
  · rfl
  · unfold fractionPart at hc
    split at hc
    · cases hc
    · obtain rfl | hc := List.mem_cons.1 hc
      · rfl
      · exact continuesNumber_of_placeholder (h.2 c hc)

/-- No part of the pattern (`PatternPart`) but the sign has apostrophes or signs. -/
private theorem ne_of_mem_chars {part : PatternPart} (h : part.IsSpelled) (hsign : part ≠ sign)
    {c : Char} (hc : c ∈ part.chars) : c ≠ '\'' ∧ c ≠ Currency.sign := by
  cases part with
  | text a =>
    obtain rfl := List.mem_singleton.1 hc
    exact h.2
  | sign => contradiction
  | number =>
    -- neither apostrophes nor currency signs go on with a number
    have := continuesNumber_of_mem_showing h hc
    constructor <;>
    · rintro rfl
      cases this

/-- Setting the digits of a part leaves it well spelled (`IsSpelled`). -/
theorem setDigits_isSpelled (digits : Int) {part : PatternPart} (h : part.IsSpelled) :
    (part.setDigits digits).IsSpelled := by
  cases part with
  | text | sign => exact h
  | number leading fraction =>
    refine ⟨h.1, fun c hc => ?_⟩
    rw [List.eq_of_mem_replicate hc]
    rfl

/-- Setting the digits of two parts leaves them apart (`Precedes`). -/
theorem setDigits_precedes (digits : Int) {part next : PatternPart} (h : part.Precedes next) :
    (part.setDigits digits).Precedes (next.setDigits digits) := by
  cases part <;> cases next <;> exact h

/-- What a part is written (`written`) as begins with an apostrophe only for a sign. -/
private theorem head?_written {part : PatternPart} (h : part.IsSpelled) (hsign : part ≠ sign)
    (symbol rest : List Char) : (part.written symbol ++ rest).head? ≠ some '\'' := by
  obtain ⟨c, s, hcs⟩ : ∃ c s, part.chars = c :: s := by
    cases part with
    | text c => exact ⟨c, [], rfl⟩
    | sign => contradiction
    | number leading fraction => exact List.exists_cons_of_ne_nil (by simp [chars, showing])
  have := (ne_of_mem_chars h hsign (hcs ▸ List.mem_cons_self)).1
  rw [written_of_ne hsign, hcs]
  simpa using this

/-! ### Several parts -/

/-- A number ends (`endsNumber`) before the parts that may follow it. -/
theorem endsNumber_chars {leading fraction : List Char} {parts : List PatternPart}
    (hspelled : ∀ part ∈ parts, part.IsSpelled)
    (h : ∀ next ∈ parts.head?, (number leading fraction).Precedes next) :
    endsNumber (parts.flatMap chars) = true := by
  cases parts with
  | nil => rfl
  | cons next parts =>
    have hnext := hspelled next List.mem_cons_self
    cases next with
    | text c =>
      -- the text behind a number does not begin with what would go on with it
      have hc : continuesNumber c = false := hnext.1
      simp [chars, endsNumber, hc]
    | sign => rfl
    | number => exact (h _ rfl).elim

/-- Setting the digits of a pattern sets those of its numbers (`setDigits`). -/
theorem withFractionDigitsChars_chars {digits : Int} {parts : List PatternPart}
    (hspelled : ∀ part ∈ parts, part.IsSpelled) (hapart : parts.IsChain Precedes) :
    withFractionDigitsChars digits (parts.flatMap chars) =
      (parts.map (setDigits digits)).flatMap chars := by
  induction parts with
  | nil => exact withFractionDigitsChars_nil
  | cons part parts ih =>
    obtain ⟨hpart, hparts⟩ := List.forall_mem_cons.1 hspelled
    obtain ⟨hfirst, hrest⟩ := List.isChain_cons.1 hapart
    rw [List.map_cons, List.flatMap_cons, List.flatMap_cons, ← ih hparts hrest]
    -- A number is closed off by what follows it, which is why the parts have to be apart.
    cases part with
    | text c =>
      refine withFractionDigitsChars_cons ?_ _
      rintro rfl
      cases hpart.1
    | sign => exact withFractionDigitsChars_cons (by decide) _
    | number leading fraction =>
      exact withFractionDigitsChars_showing hpart.1 hpart.2 (endsNumber_chars hparts hfirst)

/-- A text in the place of the currency sign (`withSymbolChars`) is written in the place of the sign
among the parts. -/
theorem withSymbolChars_chars (symbol : List Char) {parts : List PatternPart}
    (hspelled : ∀ part ∈ parts, part.IsSpelled) :
    Currency.withSymbolChars symbol (parts.flatMap chars) = parts.flatMap (written symbol) := by
  rw [Currency.withSymbolChars, List.flatMap_assoc]
  refine List.flatMap_congr fun part hpart => ?_
  rcases eq_or_ne part sign with rfl | hsign
  · exact List.append_nil _
  · rw [written_of_ne hsign]
    exact flatMap_eq_self fun c hc => if_neg (ne_of_mem_chars (hspelled part hpart) hsign hc).2

/-- What is written (`written`) is read as the parts, and for the text as what is shown of it. -/
theorem readMarks_written (symbol : List Char) {parts : List PatternPart}
    (hspelled : ∀ part ∈ parts, part.IsSpelled) (hapart : parts.IsChain Precedes) :
    readMarks false (parts.flatMap (written symbol)) = parts.flatMap (marks (shown symbol)) := by
  induction parts with
  | nil => rfl
  | cons part parts ih =>
    obtain ⟨hpart, hparts⟩ := List.forall_mem_cons.1 hspelled
    obtain ⟨hfirst, hrest⟩ := List.isChain_cons.1 hapart
    rw [List.flatMap_cons, List.flatMap_cons, ← ih hparts hrest]
    -- The sign is followed by no apostrophe, as no sign follows it and no other part has one.
    rcases eq_or_ne part sign with rfl | hsign
    · refine Currency.readMarks_quotedText symbol ?_
      cases parts with
      | nil => exact nofun
      | cons next parts =>
        refine head?_written (hparts next List.mem_cons_self) ?_ symbol _
        rintro rfl
        exact hfirst sign rfl
    · rw [written_of_ne hsign, marks_of_ne hsign]
      exact readMarks_plain (fun c hc => (ne_of_mem_chars hpart hsign hc).1) _

/-- How much longer the reading of parts (`marks`) is with one text than with another one. -/
private theorem length_marks (s t : List Char) (parts : List PatternPart) :
    (parts.flatMap (marks s)).length + parts.count sign * t.length =
      (parts.flatMap (marks t)).length + parts.count sign * s.length := by
  induction parts with
  | nil => simp
  | cons part parts ih =>
    rw [List.flatMap_cons, List.flatMap_cons, List.length_append, List.length_append]
    -- only a currency sign is read differently with another symbol
    rcases eq_or_ne part sign with rfl | hsign
    · rw [List.count_cons_self, Nat.add_mul, Nat.add_mul, marks, List.length_map, marks,
        List.length_map]
      omega
    · rw [List.count_cons_of_ne hsign, marks_of_ne hsign, marks_of_ne hsign]
      omega

/-- Parts with a sign are read differently (`marks`) for different texts. -/
theorem marks_inj {s t : List Char} {parts : List PatternPart} (hsign : sign ∈ parts) :
    parts.flatMap (marks s) = parts.flatMap (marks t) ↔ s = t := by
  refine ⟨fun h => ?_, fun h => h ▸ rfl⟩
  -- There are as many signs on both sides, so the texts have one length, and the first ones can be
  -- told apart.
  have hlength : s.length = t.length := by
    have := length_marks s t parts
    rw [h] at this
    exact (Nat.eq_of_mul_eq_mul_left (List.count_pos_iff.2 hsign) (by omega)).symm
  induction parts with
  | nil => cases hsign
  | cons part parts ih =>
    rw [List.flatMap_cons, List.flatMap_cons] at h
    rcases eq_or_ne part sign with rfl | hpart
    · obtain ⟨hmarks, -⟩ := List.append_inj h (by simp [marks, hlength])
      exact List.map_injective_iff.2 (fun _ _ hc => Mark.literal.inj hc) hmarks
    · rw [marks_of_ne hpart, marks_of_ne hpart] at h
      exact ih ((List.mem_cons.1 hsign).resolve_left hpart.symm) (List.append_cancel_left h)

end PatternPart

open PatternPart

/-- The parts of a pattern: they are spelled out in it, no two numbers and no two signs stand
together, and the sign is among them. -/
structure IsLayout (parts : List PatternPart) (pattern : List Char) : Prop where
  spells : parts.flatMap chars = pattern
  spelled : ∀ part ∈ parts, part.IsSpelled
  apart : parts.IsChain Precedes
  signed : sign ∈ parts

/-- The parts of a pattern (`IsLayout`) with so many digits are those of the pattern, with so many
digits. -/
theorem IsLayout.setDigits {parts : List PatternPart} {pattern : List Char}
    (h : IsLayout parts pattern) (digits : Int) :
    IsLayout (parts.map (PatternPart.setDigits digits))
      (withFractionDigitsChars digits pattern) where
  spells := by rw [← h.spells, withFractionDigitsChars_chars h.spelled h.apart]
  spelled :=
    List.forall_mem_map.2 fun part hpart => setDigits_isSpelled digits (h.spelled part hpart)
  apart := (List.isChain_map _).2 (h.apart.imp fun _ _ => setDigits_precedes digits)
  signed := List.mem_map.2 ⟨sign, h.signed, rfl⟩

/-- A pattern with a text in the place of the currency sign is read as its parts, and for the text
as what is shown of it (`shown`). -/
theorem IsLayout.readMarks_withSymbolChars {parts : List PatternPart} {pattern : List Char}
    (h : IsLayout parts pattern) (symbol : List Char) :
    readMarks false (Currency.withSymbolChars symbol pattern) =
      parts.flatMap (marks (shown symbol)) := by
  rw [← h.spells, withSymbolChars_chars symbol h.spelled,
    readMarks_written symbol h.spelled h.apart]

/-! ## Currency patterns of formatters -/

/-- A currency pattern that begins with the sign. -/
def signFirst : List PatternPart := [.sign, .number ['#', ',', '#', '#'] ['0', '0']]

/-- A currency pattern that ends with the sign behind a space. -/
def signLast : List PatternPart :=
  [.number ['#', ',', '#', '#'] ['0', '0'], .text '\u00a0', .sign]

/-- The layout (`IsLayout`) of a pattern with the sign in front. -/
theorem isLayout_signFirst : IsLayout signFirst "¤#,##0.00".toList :=
  ⟨by decide, by decide, by decide, by decide⟩

/-- The layout (`IsLayout`) of a pattern with the sign behind a blank at the end. -/
theorem isLayout_signLast : IsLayout signLast "#,##0.00\u00a0¤".toList :=
  ⟨by decide, by decide, by decide, by decide⟩

/-- The layout (`IsLayout`) of a pattern that stands in for that of a language which has none. -/
theorem isLayout_patternOr {pattern : Option String} (h : ∀ p, pattern = some p → p ≠ "" →
    ∃ parts, IsLayout parts p.toList) :
    ∃ parts, IsLayout parts (Conventions.patternOr pattern "¤#,##0.00").toList := by
  cases pattern with
  | none => exact ⟨signFirst, isLayout_signFirst⟩
  | some p =>
    rw [Conventions.patternOr]
    split
    · exact ⟨signFirst, isLayout_signFirst⟩
    · next hempty => exact h p rfl fun hp => hempty (hp ▸ rfl)

/-- The standard currency patterns of a source of locale data, where it has one, are made of texts,
signs and numbers. -/
def HasLayouts (source : LocaleSource) : Prop :=
  ∀ code data, source.find? code = some data →
    ∀ pattern, data.conventions.currencyPattern = some pattern → pattern ≠ "" →
      ∃ parts, IsLayout parts pattern.toList

namespace Formatter

/-- The standard currency pattern of every formatter has a layout (`IsLayout`). -/
theorem exists_isLayout_create {ε : Type} {source : LocaleSource} (h : HasLayouts source)
    (code : String) : ∃ f parts,
    (create source code : Logged ε Formatter).result = .ok f ∧
      IsLayout parts f.conventions.standardCurrencyPattern.toList := by
  unfold create
  split
  · next data hdata =>
    obtain ⟨parts, hparts⟩ := isLayout_patternOr (h code data hdata)
    exact ⟨_, parts, rfl, hparts⟩
  · -- the data of American English is that of a known locale as well
    obtain ⟨parts, hparts⟩ := isLayout_patternOr (h _ _ source.find?_american)
    exact ⟨_, parts, rfl, hparts⟩

/-- Whether a pattern is read as its parts with so many digits and with a text in the place of every
sign, which is literal. -/
def KeepsSymbol (parts : List PatternPart) (symbol : String) (digits : Int) (pattern : String) :
    Prop :=
  readMarks false pattern.toList = (parts.map (setDigits digits)).flatMap (marks symbol.toList)

variable {fits : Nat → Bool} {parts : List PatternPart} {standard symbol pattern : String}
  {digits : Int}

/-- Every pattern that is made of a symbol and digits (`customPattern`) is read as its parts with so
many digits, and for the symbol as what is shown of it after its own digits were set. -/
theorem readMarks_customPattern (h : IsLayout parts standard.toList)
    (hmade : Currency.customPattern fits standard (some symbol) (some digits) = .ok pattern) :
    readMarks false pattern.toList = (parts.map (setDigits digits)).flatMap
      (marks (shown (withFractionDigitsChars digits symbol.toList))) := by
  rw [(Currency.customPattern_eq_ok_iff.1 hmade).2,
    (h.setDigits digits).readMarks_withSymbolChars]

/-- A pattern that is made keeps its symbol (`KeepsSymbol`) if and only if this has some character
but apostrophes and is left alone when digits are set in it. -/
theorem keepsSymbol_iff_of_customPattern (h : IsLayout parts standard.toList)
    (hmade : Currency.customPattern fits standard (some symbol) (some digits) = .ok pattern) :
    KeepsSymbol parts symbol digits pattern ↔ (∃ c ∈ symbol.toList, c ≠ '\'') ∧
      withFractionDigitsChars digits symbol.toList = symbol.toList := by
  rw [KeepsSymbol, readMarks_customPattern h hmade, marks_inj (h.setDigits digits).signed,
    shown_withFractionDigitsChars_iff]

/-- With memory for every text, the symbols that are kept (`KeepsSymbol`) with every number of
digits have some character but apostrophes and no zero that ends an integer part. -/
theorem forall_keepsSymbol_iff (h : IsLayout parts standard.toList) :
    (∀ digits pattern,
      Currency.customPattern (fun _ => true) standard (some symbol) (some digits) = .ok pattern →
        KeepsSymbol parts symbol digits pattern) ↔
      (∃ c ∈ symbol.toList, c ≠ '\'') ∧ ¬HasNumber symbol.toList := by
  constructor
  · intro hall
    have hkept : ∀ digits : Int, digits ≤ longestText → (∃ c ∈ symbol.toList, c ≠ '\'') ∧
        withFractionDigitsChars digits symbol.toList = symbol.toList := fun digits hlongest => by
      obtain ⟨pattern, hmade⟩ := Currency.exists_customPattern_eq_ok (fun _ => true) standard symbol
        hlongest ⟨fun _ => rfl, rfl⟩
      exact (keepsSymbol_iff_of_customPattern h hmade).1 (hall digits pattern hmade)
    -- No digits and one digit are enough to find out a number in the symbol.
    obtain ⟨hsome, hnone⟩ := hkept 0 (by decide)
    exact ⟨hsome, not_hasNumber_of_eq (hnone.trans (hkept 1 (by decide)).2.symm)⟩
  · rintro ⟨hsome, hnumber⟩ digits pattern hmade
    exact (keepsSymbol_iff_of_customPattern h hmade).2
      ⟨hsome, withFractionDigitsChars_of_not_hasNumber hnumber⟩

/-- With a symbol and a number of digits of its own, an amount is written by a pattern that is made
of the standard one. In it the symbol is kept (`KeepsSymbol`) if and only if a text can have so many
digits, there is memory for the pattern, the symbol has some character but apostrophes, and setting
the digits in the symbol changes nothing. The standard pattern of every locale has the layout that
is asked for, if the patterns of the source have. -/
theorem keepsSymbol_iff {source : LocaleSource} (hlayouts : HasLayouts source) (fits : Nat → Bool)
    (o : NumberOptions) (symbol : String) (digits : Int)
    (hpattern : o.pattern = none) (hsymbol : o.symbol = some (.text symbol))
    (hdigits : o.digits = some (.int digits)) :
    (∀ code, ∃ f parts, (create source code : Logged NumberFault Formatter).result = .ok f ∧
      IsLayout parts f.conventions.standardCurrencyPattern.toList) ∧
    ∀ (f : Formatter) (parts : List PatternPart),
      IsLayout parts f.conventions.standardCurrencyPattern.toList →
      (∀ q, f.inCurrency fits o q = do
        let pattern ← Currency.customPattern fits f.conventions.standardCurrencyPattern
          (some symbol) (some digits)
        f.currencyByPattern pattern .ofPattern (o.currencyOr f.defaultCurrency) (← q.amount?)) ∧
      ((∃ pattern, Currency.customPattern fits f.conventions.standardCurrencyPattern
            (some symbol) (some digits) = .ok pattern ∧
          KeepsSymbol parts symbol digits pattern) ↔
        (digits ≤ longestText ∧
          Currency.HasRoomFor fits f.conventions.standardCurrencyPattern symbol digits) ∧
        (∃ c ∈ symbol.toList, c ≠ '\'') ∧
          withFractionDigitsChars digits symbol.toList = symbol.toList) := by
  refine ⟨exists_isLayout_create hlayouts, fun f parts hparts => ⟨fun q => ?_, ?_⟩⟩
  · -- without a pattern of its own the amount is written by the standard one
    simp only [inCurrency, NumberOptions.symbolText, hpattern, hsymbol, hdigits]
    rfl
  · constructor
    · rintro ⟨pattern, hmade, hkeeps⟩
      exact ⟨(Currency.customPattern_eq_ok_iff.1 hmade).1,
        (keepsSymbol_iff_of_customPattern hparts hmade).1 hkeeps⟩
    · rintro ⟨⟨hlongest, hroom⟩, hkeeps⟩
      obtain ⟨pattern, hmade⟩ := Currency.exists_customPattern_eq_ok fits _ symbol hlongest hroom
      exact ⟨pattern, hmade, (keepsSymbol_iff_of_customPattern hparts hmade).2 hkeeps⟩

/-- The currency patterns of the languages (`languages`) that are listed have layouts. -/
private theorem exists_isLayout_languages : ∀ entry ∈ Conventions.languages,
    ∀ pattern, entry.2.1.currencyPattern = some pattern →
      ∃ parts, IsLayout parts pattern.toList := by
  simp only [Conventions.languages, List.forall_mem_cons, List.not_mem_nil, false_imp_iff,
    implies_true, and_true]
  refine ⟨?_, ?_, ?_, ?_⟩ <;> rintro _ ⟨⟩
  · exact ⟨_, isLayout_signFirst⟩
  · exact ⟨_, isLayout_signLast⟩
  · exact ⟨_, isLayout_signLast⟩
  · exact ⟨_, isLayout_signFirst⟩

/-- The conventions of a locale that is listed are those of its language (`languages`). -/
private theorem mem_languages_of_of? {locale : LocaleCode} {c : Conventions}
    {region : RegionConventions} (h : Conventions.of? locale = some (c, region)) :
    ∃ entry ∈ Conventions.languages, entry.2.1 = c := by
  obtain ⟨regions, hget⟩ : ∃ regions,
      Assoc.get? Conventions.languages locale.language = some (c, regions) := by
    unfold Conventions.of? at h
    -- with a region or without, the language was found in the table
    split at h
    · next conventions regions hget _ _ =>
      obtain ⟨rfl, -⟩ := Prod.mk.inj (Option.some.inj h)
      exact ⟨regions, hget⟩
    · next conventions regions _ hget _ _ =>
      split at h
      · obtain ⟨_, -, heq⟩ := Option.map_eq_some_iff.1 h
        obtain ⟨rfl, -⟩ := Prod.mk.inj heq
        exact ⟨regions, hget⟩
      · cases h
    · cases h
  obtain ⟨entry, hfind, hentry⟩ := Option.map_eq_some_iff.1 hget
  exact ⟨entry, List.mem_of_find?_eq_some hfind, congrArg Prod.fst hentry⟩

/-- The currency patterns of the locales that are listed have layouts (`HasLayouts`). -/
theorem hasLayouts_listed : HasLayouts .listed := by
  intro code data hdata pattern hpattern _
  obtain ⟨locale, -, hmore⟩ := Option.bind_eq_some_iff.1 hdata
  obtain ⟨⟨c, region⟩, hof, hlisted⟩ := Option.bind_eq_some_iff.1 hmore
  obtain rfl := Option.some.inj hlisted
  obtain ⟨entry, hentry, rfl⟩ := mem_languages_of_of? hof
  exact exists_isLayout_languages entry hentry pattern hpattern

/-- A symbol with letters and a point keeps its text (`KeepsSymbol`). -/
theorem keepsSymbol_iff_francs : HasLayouts .listed ∧ ∃ f : Formatter,
    (create .listed "de_DE" : Logged NumberFault Formatter).result = .ok f ∧
    IsLayout signLast f.conventions.standardCurrencyPattern.toList ∧
    ∃ pattern,
      Currency.customPattern (· ≤ 100) f.conventions.standardCurrencyPattern (some "Fr.") (some 3) =
        .ok pattern ∧
      KeepsSymbol signLast "Fr." 3 pattern := by
  obtain ⟨f, hf⟩ : ∃ f : Formatter,
      (create .listed "de_DE" : Logged NumberFault Formatter).result = .ok f ∧
        f.conventions.standardCurrencyPattern = "#,##0.00\u00a0¤" := ⟨_, rfl, rfl⟩
  have hparts : IsLayout signLast f.conventions.standardCurrencyPattern.toList := by
    rw [hf.2]
    exact isLayout_signLast
  -- a hundred characters are enough for the pattern
  have hroom : Currency.HasRoomFor (· ≤ 100) f.conventions.standardCurrencyPattern "Fr." 3 := by
    rw [hf.2]
    exact ⟨fun _ => rfl, by decide +kernel⟩
  exact ⟨hasLayouts_listed, f, hf.1, hparts, (((keepsSymbol_iff hasLayouts_listed (· ≤ 100)
    ⟨none, some (.text "Fr."), some (.int 3), none⟩ "Fr." 3 rfl rfl rfl).2 f signLast hparts).2).2
      ⟨⟨by decide, hroom⟩, ⟨'F', by decide, by decide⟩,
        withFractionDigitsChars_of_notMem (by decide)⟩⟩

/-- The zero at the end of a symbol is taken for the last digit of a number
(`withFractionDigitsChars`). -/
theorem not_keepsSymbol_zero : ∃ f : Formatter,
    (create .listed "en_US" : Logged NumberFault Formatter).result = .ok f ∧
    IsLayout signFirst f.conventions.standardCurrencyPattern.toList ∧
    Currency.customPattern (· ≤ 100) f.conventions.standardCurrencyPattern (some "A0") (some 2) =
      .ok "'A0.00'#,##0.00" ∧
    ¬KeepsSymbol signFirst "A0" 2 "'A0.00'#,##0.00" := by
  have hroom : Currency.HasRoomFor (· ≤ 100) "¤#,##0.00" "A0" 2 :=
    ⟨fun _ => rfl, by decide +kernel⟩
  refine ⟨_, rfl, isLayout_signFirst,
    Currency.customPattern_eq_ok_iff.2 ⟨⟨by decide, hroom⟩, ?_⟩, ?_⟩
  · decide +kernel
  · unfold KeepsSymbol
    decide

end Formatter

end Parlance
