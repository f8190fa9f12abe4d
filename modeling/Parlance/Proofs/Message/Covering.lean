import Mathlib.Data.Bool.Basic
import Parlance.Proofs.Message.Cutting

/-!
# Tokens cover the text

The scanner leaves out nothing of a text but white space in expressions. `CutUp` says what a text is
cut into from an offset on, where some braces are open: each token stands where the last one ended,
or in an expression behind white space, and is what is written there. From it follows how the tokens
of a text are laid out (`laidOut_of_tokenize`).
-/

namespace Parlance.Grammar

open Parlance.Message Parlance.Text Parlance.Token

/-- The characters of a text from an offset up to another. -/
def stretch (source : List Char) (start stop : Nat) : List Char :=
  (source.drop start).take (stop - start)

/-- So many characters behind a place are a stretch (`stretch`) of the source. -/
private theorem take_drop_eq_stretch (source : List Char) (pos n : Nat) :
    (source.drop pos).take n = stretch source pos (pos + n) := by
  rw [stretch, Nat.add_sub_cancel_left]

/-! ## What comes next -/

/-- Whether the next token may start at an offset where the last one has ended at `pos` and `depth`
braces are open: behind white space at most, and in literal text at once. -/
structure ComesNext (source : List Char) (depth pos start : Nat) : Prop where
  le : pos ≤ start
  blank : ∀ c ∈ stretch source pos start, isBlank c = true
  adjacent : depth % 2 = 0 → pos = start

/-- Where something comes next (`ComesNext`) at once, nothing is in between. -/
private theorem comesNext_self (source : List Char) (depth pos : Nat) :
    ComesNext source depth pos pos :=
  ⟨Nat.le_refl pos, by simp [stretch], fun _ => rfl⟩

section

variable {q : Quoting} {depth pos : Nat} {source text : List Char} {tokens : List Token}

/-- What comes next (`ComesNext`) behind white space in an expression comes next before it. -/
private theorem ComesNext.blank_cons {c : Char} {start : Nat} (hodd : depth % 2 = 1)
    (hc : source[pos]? = some c) (hblank : isBlank c = true)
    (h : ComesNext source depth (pos + 1) start) : ComesNext source depth pos start := by
  obtain ⟨hle, hrest, -⟩ := h
  obtain ⟨hlt, rfl⟩ := List.getElem?_eq_some_iff.1 hc
  refine ⟨by omega, fun d hd => ?_, by omega⟩
  rw [stretch, List.drop_eq_getElem_cons hlt, show start - pos = start - (pos + 1) + 1 by omega,
    List.take_succ_cons] at hd
  rcases List.mem_cons.1 hd with rfl | hd
  · exact hblank
  · exact hrest d hd

/-- Where text is read, or no white space stands, the scanner makes a token at once (`scan`). -/
private theorem exists_start_of_scan {c : Char} (hc : depth % 2 = 0 ∨ isBlank c = false)
    (h : scan q 0 depth pos (c :: text) = .ok tokens) :
    ∃ t rest, tokens = t :: rest ∧ t.start = pos := by
  rw [scan] at h
  split at h
  · split at h
    · split at h <;>
      · obtain ⟨ts, -, rfl⟩ := map_eq_ok_iff.1 h
        exact ⟨_, ts, rfl, rfl⟩
    · obtain ⟨ts, -, rfl⟩ := map_eq_ok_iff.1 h
      exact ⟨_, ts, rfl, rfl⟩
  · next hodd =>
    rw [if_neg (by simp [hc.resolve_left hodd])] at h
    -- The five kinds of tokens of an expression; any other character is a failure.
    iterate 5
      split at h
      · obtain ⟨ts, -, rfl⟩ := map_eq_ok_iff.1 h
        exact ⟨_, ts, rfl, rfl⟩
    cases h

/-- The first token of what is left of a text, or the end of the text, comes next (`ComesNext`). -/
theorem comesNext_of_scan (hpos : pos ≤ source.length)
    (h : scan q 0 depth pos (source.drop pos) = .ok tokens) :
    ∀ t ∈ (tokens ++ [ending source.length]).head?, ComesNext source depth pos t.start := by
  -- the induction is on the text that is left, of which only white space is passed over
  induction hleft : source.length - pos generalizing pos with
  | zero =>
    rw [List.drop_eq_nil_of_le (by omega)] at h
    cases h
    obtain rfl : pos = source.length := by omega
    simpa [ending] using comesNext_self source depth source.length
  | succ n ih =>
    have hlt : pos < source.length := by omega
    rw [List.drop_eq_getElem_cons hlt] at h
    by_cases hc : depth % 2 = 0 ∨ isBlank source[pos] = false
    · obtain ⟨t, rest, rfl, rfl⟩ := exists_start_of_scan hc h
      simpa using comesNext_self source depth t.start
    · rw [not_or, Bool.not_eq_false] at hc
      have hodd : depth % 2 = 1 := by omega
      rw [scan_blank hodd hc.2] at h
      intro t ht
      exact (ih (by omega) h (by omega) t ht).blank_cons hodd (List.getElem?_eq_getElem hlt) hc.2

/-! ## Runs of text -/

/-- A run (`textRun`) of text goes on to the end of the text or to what ends text. -/
private theorem textRun_ends (q : Quoting) (depth : Nat) (quoted : Bool) (text : List Char) :
    (textRun q depth quoted text).2 = [] ∨
      endsText q depth (textRun q depth quoted text).2 = true := by
  fun_induction textRun q depth quoted text
  case case1 | case4 => exact .inl rfl
  case case2 ih | case6 ih => exact ih
  case case3 hrun ih | case5 hrun _ ih | case8 hrun ih => rwa [hrun] at ih
  case case7 hends => exact .inr hends

/-- A token that is text is a run (`textRun`) of text, and the scanner goes on behind the run. -/
theorem exists_textRun_of_scan {t : Token} {rest : List Token} (ht : t.kind = .text)
    (h : scan q 0 depth pos text = .ok (t :: rest)) :
    depth % 2 = 0 ∧ text ≠ [] ∧ endsText q depth text = false ∧ t.start = pos ∧
      t.value = String.ofList (textRun q depth false text).1 ∧
      t.stop = pos + (text.length - (textRun q depth false text).2.length) := by
  have hfits := (cut_of_scan h).fits
  rw [Fits, ht] at hfits
  -- No token of an expression is a text.
  have heven : depth % 2 = 0 := by
    by_contra hodd
    rw [if_neg hodd] at hfits
    exact hfits.1 rfl
  cases text with
  | nil => cases h
  | cons c more =>
    rw [scan, if_pos heven] at h
    split at h
    · split at h <;>
      · obtain ⟨ts, -, heq⟩ := map_eq_ok_iff.1 h
        cases heq
        cases ht
    · next hends =>
      obtain ⟨ts, -, heq⟩ := map_eq_ok_iff.1 h
      cases heq
      exact ⟨heven, List.cons_ne_nil c more, Bool.eq_false_of_not_eq_true hends, rfl, rfl, rfl⟩

/-- What follows a run of text is no run of text (`TokenKind.text`). -/
theorem ne_text_of_scan {t u : Token} {rest : List Token} (ht : t.kind = .text)
    (h : scan q 0 depth pos text = .ok (t :: u :: rest)) : u.kind ≠ .text := by
  intro hu
  have hcut := cut_of_scan h
  obtain ⟨-, -, -, -, -, hstop⟩ := exists_textRun_of_scan ht h
  have hsuffix := textRun_isSuffix q depth false text
  have hafter : text.drop (t.stop - pos) = (textRun q depth false text).2 := by
    rw [hstop, Nat.add_sub_cancel_left]
    exact (List.suffix_iff_eq_drop.1 hsuffix).symm
  have hrest := hcut.scan_rest
  rw [hafter, show levelAfter depth t.kind = depth by rw [ht]; rfl] at hrest
  obtain ⟨-, hne, hends, -⟩ := exists_textRun_of_scan hu hrest
  -- A run of text goes on until text ends, and there no run can begin.
  rcases textRun_ends q depth false text with hnil | hend
  · exact hne hnil
  · rw [hend] at hends
    cases hends

/-- Without quoting, a run of text is what is written (`slice`). -/
private theorem value_of_text {t : Token} {rest : List Token} (hoff : q.enabled = false)
    (ht : t.kind = .text) (h : scan q 0 depth pos text = .ok (t :: rest)) :
    t.value.toList = text.take (t.stop - pos) := by
  obtain ⟨-, -, -, -, hvalue, hstop⟩ := exists_textRun_of_scan ht h
  have hwritten : (textRun q depth false text).1 ++ (textRun q depth false text).2 = text :=
    (textRun_of_unmarked fun c _ => by simp [escape?_of_off hoff]).1
  rw [hvalue, String.toList_ofList, hstop, Nat.add_sub_cancel_left]
  generalize textRun q depth false text = run at hwritten ⊢
  rw [← hwritten, List.length_append, Nat.add_sub_cancel, List.take_left]

/-! ## Marks -/

/-- The character that a token of a kind is, if it is a mark. -/
def mark? : TokenKind → Option Char
  | .openBrace => some '\x7b'
  | .closeBrace => some '\x7d'
  | .comma => some ','
  | .equals => some '='
  | _ => none

/-- A word is no mark (`mark?`). -/
private theorem mark?_wordKind (w : List Char) : mark? (wordKind w) = none := by
  rcases wordKind_cases w with h | h <;> rw [h] <;> rfl

/-- A mark (`mark?`) is its character. -/
private theorem mark_of_scan {t : Token} {rest : List Token} {skip : Nat}
    (h : scan q skip depth pos text = .ok (t :: rest)) :
    ∀ c ∈ mark? t.kind, t.value = String.singleton c := by
  fun_induction scan q skip depth pos text
  case case1 => cases h
  case case2 ih | case6 ih => exact ih h
  case case4 heven hends hopen _ =>
    -- what ends text and is no opening brace is a closing one
    obtain ⟨ts, -, heq⟩ := map_eq_ok_iff.1 h
    simp only [endsText, Bool.and_eq_true, Bool.or_eq_true, beq_iff_eq, hopen, false_and,
      false_or] at hends
    obtain ⟨-, rfl, -⟩ := hends
    cases heq
    simp [mark?]
  case case11 w _ _ =>
    obtain ⟨ts, -, heq⟩ := map_eq_ok_iff.1 h
    cases heq
    simp [mark?_wordKind]
  case case12 => cases h
  case case3 | case5 | case7 | case8 | case9 | case10 =>
    obtain ⟨ts, -, heq⟩ := map_eq_ok_iff.1 h
    cases heq
    simp [mark?]

/-! ## What a text is cut into -/

/-- Whether a token is a part of the text that can stand where `depth` braces are open, and what is
written there, unless it is text with quoting. -/
structure IsPart (q : Quoting) (source : List Char) (depth : Nat) (t : Token) : Prop where
  fits : Fits q depth t.kind
  start_lt : t.start < t.stop
  stop_le : t.stop ≤ source.length
  value_eq : t.kind ≠ .text ∨ q.enabled = false → t.value.toList = stretch source t.start t.stop
  sound : t.WordSound
  mark : ∀ c ∈ mark? t.kind, t.value = String.singleton c

/-- Whether tokens are what a text is cut into from an offset on, where `depth` braces are open. -/
def CutUp (q : Quoting) (source : List Char) : Nat → Nat → List Token → Prop
  | depth, pos, [] => ComesNext source depth pos source.length
  | depth, pos, t :: rest =>
    ComesNext source depth pos t.start ∧ IsPart q source depth t ∧
      (t.kind = .text → ∀ u ∈ rest.head?, u.kind ≠ .text) ∧
      CutUp q source (levelAfter depth t.kind) t.stop rest

/-- The scanner makes what a text is cut into (`CutUp`). -/
theorem cutUp_of_scan (hpos : pos ≤ source.length)
    (h : scan q 0 depth pos (source.drop pos) = .ok tokens) : CutUp q source depth pos tokens := by
  induction tokens generalizing depth pos with
  | nil => exact comesNext_of_scan hpos h _ rfl
  | cons t rest ih =>
    have hcut := cut_of_scan h
    -- The first token is cut off by itself, and the induction cuts the rest from its end on.
    have hnext := comesNext_of_scan hpos h t rfl
    have hstop : t.stop ≤ source.length := by
      have hle := hcut.stop_le
      rw [List.length_drop] at hle
      omega
    have hrest := hcut.scan_rest
    have hlt := hcut.start_lt
    rw [List.drop_drop, show pos + (t.stop - pos) = t.stop by have := hnext.le; omega] at hrest
    have hsound := wordSound_of_scan _ _ _ _ _ _ h t List.mem_cons_self
    refine ⟨hnext, ⟨hcut.fits, hlt, hstop, fun hvalue => ?_, hsound, mark_of_scan h⟩,
      fun ht u hu => ?_, ih hstop hrest⟩
    · by_cases ht : t.kind = .text
      · obtain ⟨-, -, -, hstart, -⟩ := exists_textRun_of_scan ht h
        rw [value_of_text (hvalue.resolve_left (not_not.2 ht)) ht h, take_drop_eq_stretch, hstart,
          show pos + (t.stop - pos) = t.stop by omega]
      · rw [hcut.value_eq ht, List.drop_drop, Nat.add_sub_cancel' hnext.le, stretch]
    · cases rest with
      | nil => cases hu
      | cons v more =>
        obtain rfl : v = u := by simpa using hu
        exact ne_text_of_scan ht h

/-- The tokens of a text are what it is cut up (`CutUp`) into. -/
theorem cutUp_of_ofText {text : String} (h : ofText q text = .ok tokens) :
    CutUp q text.toList 0 0 tokens :=
  cutUp_of_scan (Nat.zero_le _) h

/-! ## How tokens are laid out -/

/-- Whether one token can follow another in a text: behind white space at most, at once where one of
them is text, and not both are. -/
structure Follows (source : List Char) (t u : Token) : Prop where
  le : t.stop ≤ u.start
  blank : ∀ c ∈ stretch source t.stop u.start, isBlank c = true
  adjacent : t.kind = .text ∨ u.kind = .text → t.stop = u.start
  apart : t.kind ≠ .text ∨ u.kind ≠ .text

/-- How the tokens of a text are laid out: none is empty but the one at the end of the text, which
is the last; the first starts where the text does; they follow one another; and each is what is
written there, unless it is text with quoting. -/
structure LaidOut (q : Quoting) (text : String) (tokens : List Token) : Prop where
  ending : ∃ before, tokens = before ++ [Token.ending text.length] ∧
    ∀ t ∈ before, t.kind ≠ .endOfMessage ∧ t.start < t.stop
  first : ∀ t ∈ tokens.head?, t.start = 0
  follows : tokens.IsChain (Follows text.toList)
  value_eq : ∀ t ∈ tokens, t.kind ≠ .text ∨ q.enabled = false →
    t.value = slice text.toList ⟨t.start, t.stop⟩

/-- Only text is read (`Fits`) where the number of open braces is even. -/
private theorem even_of_text {t : Token} (h : Fits q depth t.kind) (ht : t.kind = .text) :
    depth % 2 = 0 := by
  by_contra hodd
  rw [Fits, if_neg hodd] at h
  exact h.1 ht

/-- No token that is made is the one at the end (`Token.ending`). -/
private theorem ne_ending_of_fits {t : Token} (h : Fits q depth t.kind) : t.kind ≠ .endOfMessage :=
    by
  intro ht
  rw [Fits, ht] at h
  split at h
  · simp at h
  · exact h.2 rfl

/-- The first of the tokens that a text is cut into, or its end, comes next (`ComesNext`). -/
theorem CutUp.comesNext (h : CutUp q source depth pos tokens) :
    ∀ t ∈ (tokens ++ [Token.ending source.length]).head?, ComesNext source depth pos t.start ∧
      (t.kind = .text → depth % 2 = 0) := by
  cases tokens with
  | nil =>
    have h : ComesNext source depth pos source.length := h
    simpa [Token.ending] using h
  | cons t rest =>
    obtain ⟨hnext, hpart, -⟩ := h
    simpa using ⟨hnext, even_of_text hpart.fits⟩

/-- The tokens that a text is cut into are no ending (`Token.ending`) and not empty. -/
theorem CutUp.not_empty (h : CutUp q source depth pos tokens) :
    ∀ t ∈ tokens, t.kind ≠ .endOfMessage ∧ t.start < t.stop := by
  induction tokens generalizing depth pos with
  | nil => simp
  | cons t rest ih =>
    obtain ⟨-, hpart, -, hrest⟩ := h
    exact List.forall_mem_cons.2 ⟨⟨ne_ending_of_fits hpart.fits, hpart.start_lt⟩, ih hrest⟩

/-- The tokens that a text is cut into are what is written (`slice`). -/
theorem CutUp.value_eq (h : CutUp q source depth pos tokens) :
    ∀ t ∈ tokens, t.kind ≠ .text ∨ q.enabled = false →
      t.value = slice source ⟨t.start, t.stop⟩ := by
  induction tokens generalizing depth pos with
  | nil => simp
  | cons t rest ih =>
    obtain ⟨-, hpart, -, hrest⟩ := h
    refine List.forall_mem_cons.2 ⟨fun hvalue => ?_, ih hrest⟩
    rw [← String.toList_inj, hpart.value_eq hvalue, slice, String.toList_ofList]
    rfl

/-- The tokens that a text is cut into follow (`Follows`) one another, and the end of the text
follows them. -/
theorem CutUp.follows (h : CutUp q source depth pos tokens) :
    (tokens ++ [Token.ending source.length]).IsChain (Follows source) := by
  induction tokens generalizing depth pos with
  | nil => exact .singleton _
  | cons t rest ih =>
    obtain ⟨-, hpart, happart, hrest⟩ := h
    refine List.isChain_cons.2 ⟨fun u hu => ?_, ih hrest⟩
    obtain ⟨hnext, heven⟩ := hrest.comesNext u hu
    refine ⟨hnext.le, hnext.blank, fun htext => hnext.adjacent ?_, ?_⟩
    · -- Next to a text there is no white space to leave out.
      rcases htext with ht | hu'
      · rw [ht]
        exact even_of_text hpart.fits ht
      · exact heven hu'
    · by_cases ht : t.kind = .text
      · right
        cases rest with
        | nil =>
          obtain rfl : Token.ending source.length = u := by simpa using hu
          simp [Token.ending]
        | cons v more => exact happart ht u hu
      · exact .inl ht

/-- The tokens of a text are laid out (`LaidOut`) in it one after the other, from its start to its
end, and leave out nothing but white space in expressions. -/
theorem laidOut_of_tokenize {text : String} (h : tokenize q text = .ok tokens) :
    LaidOut q text tokens := by
  obtain ⟨ts, hts, rfl⟩ := tokenize_eq_ok_iff.1 h
  have hcut := cutUp_of_ofText hts
  have hnext := hcut.comesNext
  have hfollows := hcut.follows
  rw [String.length_toList] at hnext hfollows
  refine ⟨⟨ts, rfl, hcut.not_empty⟩, fun t ht => ?_, hfollows, fun t ht hvalue => ?_⟩
  · exact ((hnext t ht).1.adjacent rfl).symm
  · -- the token at the end of the text covers nothing
    rcases List.mem_append.1 ht with ht | ht
    · exact hcut.value_eq t ht hvalue
    · obtain rfl := List.mem_singleton.1 ht
      simp [Token.ending, slice]

end

/-- The tokens of a text with two marks in a row and a reference with white space in it. -/
def greetingTokens : List Token :=
  [⟨.text, "It's ", 0, 6⟩, ⟨.openBrace, "\x7b", 6, 7⟩, ⟨.identifier, "name", 8, 12⟩,
    ⟨.closeBrace, "\x7d", 13, 14⟩, ending 14]

/-- The two marks (`greetingTokens`) are one character of the text token, which is why it need not
be what is written. -/
theorem laidOut_of_tokenize_greeting :
    tokenize ⟨true, "'"⟩ "It''s \x7b name \x7d" = .ok greetingTokens ∧
      LaidOut ⟨true, "'"⟩ "It''s \x7b name \x7d" greetingTokens := by
  have h : tokenize ⟨true, "'"⟩ "It''s \x7b name \x7d" = .ok greetingTokens := by decide +kernel
  exact ⟨h, laidOut_of_tokenize h⟩

end Parlance.Grammar
