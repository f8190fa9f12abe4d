import Parlance.Message.Token
import Parlance.Proofs.Results

/-!
# The scanner, step by step

What the scanner does with the character it looks at: in literal text it reads a run of text or a
brace, and in an expression it passes over white space or reads a mark or a word. There is one
equation for each (`scan_text`, `scan_openText`, `scan_closeText`, `scan_blank`, `scan_openBrace`,
`scan_closeBrace`, `scan_comma`, `scan_equals`, `scan_word`), all of them about a scanner that has
nothing left to pass over; one that has goes on after it (`scan_skip`).
-/

namespace Parlance.Token

open Parlance.Text

variable {q : Quoting} {depth pos : Nat}

/-- Passing over characters (`scan`) is going on behind them. -/
theorem scan_skip (q : Quoting) (skip depth pos : Nat) (s : List Char) :
    scan q skip depth pos s = scan q 0 depth (pos + skip) (s.drop skip) := by
  induction skip generalizing pos s with
  | zero => rfl
  | succ n ih =>
    cases s with
    | nil => simp [scan]
    | cons c rest => rw [scan, ih, List.drop_succ_cons, Nat.add_assoc, Nat.add_comm 1 n]

/-! ## Literal text -/

/-- A run of text (`textRun`) becomes one token, whatever stretch of the source it was written as.
-/
theorem scan_text {written after value : List Char} (heven : depth % 2 = 0)
    (hne : written ≠ []) (hstart : endsText q depth (written ++ after) = false)
    (hrun : textRun q depth false (written ++ after) = (value, after)) :
    scan q 0 depth pos (written ++ after) =
      (scan q 0 depth (pos + written.length) after).map
        (⟨.text, String.ofList value, pos, pos + written.length⟩ :: ·) := by
  cases written with
  | nil => exact absurd rfl hne
  | cons c rest =>
    rw [List.cons_append] at hstart hrun ⊢
    have hlen : (rest ++ after).length + 1 - after.length = rest.length + 1 := by
      rw [List.length_append]
      omega
    have hdrop : (rest ++ after).drop rest.length = after := List.drop_left
    simp only [scan, heven, hstart, hrun, if_true, Bool.false_eq_true, if_false, List.length_cons,
      hlen, Nat.add_sub_cancel]
    -- the characters of the run were counted, and are now passed over
    rw [scan_skip, hdrop, Nat.add_assoc, Nat.add_comm 1]

/-- A brace that opens an expression (`TokenKind.openBrace`). -/
theorem scan_openText {rest : List Char} (heven : depth % 2 = 0)
    (hends : endsText q depth ('\x7b' :: rest) = true) :
    scan q 0 depth pos ('\x7b' :: rest) =
      (scan q 0 (depth + 1) (pos + 1) rest).map (⟨.openBrace, "\x7b", pos, pos + 1⟩ :: ·) := by
  simp only [scan, heven, hends, if_true]
  rfl

/-- A brace that closes the message of a branch (`TokenKind.closeBrace`). -/
theorem scan_closeText {rest : List Char} (heven : depth % 2 = 0)
    (hends : endsText q depth ('\x7d' :: rest) = true) :
    scan q 0 depth pos ('\x7d' :: rest) =
      (scan q 0 (depth - 1) (pos + 1) rest).map (⟨.closeBrace, "\x7d", pos, pos + 1⟩ :: ·) := by
  simp only [scan, heven, hends, if_true]
  rfl

/-! ## Expressions -/

section

variable (hodd : depth % 2 = 1)

include hodd

/-- White space (`isBlank`) in an expression is passed over. -/
theorem scan_blank {c : Char} {rest : List Char} (hc : isBlank c = true) :
    scan q 0 depth pos (c :: rest) = scan q 0 depth (pos + 1) rest := by
  simp [scan, hodd, hc]

/-- White space (`isBlank`) is passed over. -/
theorem scan_blanks {gap rest : List Char} (hgap : ∀ c ∈ gap, isBlank c = true) :
    scan q 0 depth pos (gap ++ rest) = scan q 0 depth (pos + gap.length) rest := by
  induction gap generalizing pos with
  | nil => rfl
  | cons c gap ih =>
    rw [List.cons_append, scan_blank hodd (hgap c List.mem_cons_self),
      ih fun d hd => hgap d (List.mem_cons_of_mem _ hd), List.length_cons, Nat.add_assoc,
      Nat.add_comm 1]

/-- A brace that opens the message of a branch (`TokenKind.openBrace`). -/
theorem scan_openBrace {rest : List Char} :
    scan q 0 depth pos ('\x7b' :: rest) =
      (scan q 0 (depth + 1) (pos + 1) rest).map (⟨.openBrace, "\x7b", pos, pos + 1⟩ :: ·) := by
  simp only [scan, hodd, show isBlank '\x7b' = false by decide]
  rfl

/-- A brace that closes an expression (`TokenKind.closeBrace`). -/
theorem scan_closeBrace {rest : List Char} :
    scan q 0 depth pos ('\x7d' :: rest) =
      (scan q 0 (depth - 1) (pos + 1) rest).map (⟨.closeBrace, "\x7d", pos, pos + 1⟩ :: ·) := by
  simp only [scan, hodd, show isBlank '\x7d' = false by decide]
  rfl

/-- A comma in an expression is a token (`TokenKind.comma`). -/
theorem scan_comma {rest : List Char} :
    scan q 0 depth pos (',' :: rest) =
      (scan q 0 depth (pos + 1) rest).map (⟨.comma, ",", pos, pos + 1⟩ :: ·) := by
  simp only [scan, hodd, show isBlank ',' = false by decide]
  rfl

/-- An equals sign in an expression is a token (`TokenKind.equals`). -/
theorem scan_equals {rest : List Char} :
    scan q 0 depth pos ('=' :: rest) =
      (scan q 0 depth (pos + 1) rest).map (⟨.equals, "=", pos, pos + 1⟩ :: ·) := by
  simp only [scan, hodd, show isBlank '=' = false by decide]
  rfl

end

/-- The code points of the characters of a word (`isAsciiWordChar`). -/
theorem word_char_range {c : Char} (hc : isAsciiWordChar c = true) :
    48 ≤ c.toNat ∧ c.toNat ≤ 57 ∨ 65 ≤ c.toNat ∧ c.toNat ≤ 90 ∨ c.toNat = 95 ∨
      97 ≤ c.toNat ∧ c.toNat ≤ 122 := by
  have hclasses : (c.isUpper || c.isLower || c.isDigit || c == '_') = true := hc
  simp only [Bool.or_eq_true, beq_iff_eq] at hclasses
  -- The four ranges, in the order of the alternatives of `isAsciiWordChar`.
  rcases hclasses with ((hupper | hlower) | hdigit) | rfl
  · have hrange : 'A'.val ≤ c.val ∧ c.val ≤ 'Z'.val := of_decide_eq_true hupper
    exact .inr (.inl hrange)
  · have hrange := Bool.and_eq_true_iff.1 hlower
    exact .inr (.inr (.inr ⟨of_decide_eq_true hrange.1, of_decide_eq_true hrange.2⟩))
  · have hrange := Bool.and_eq_true_iff.1 hdigit
    exact .inl ⟨of_decide_eq_true hrange.1, of_decide_eq_true hrange.2⟩
  · exact .inr (.inr (.inl rfl))

/-- A character of a word (`isAsciiWordChar`) is no white space and no mark. -/
theorem word_char_distinct {c : Char} (hc : isAsciiWordChar c = true) :
    isBlank c = false ∧ c ≠ '\x7b' ∧ c ≠ '\x7d' ∧ c ≠ ',' ∧ c ≠ '=' := by
  have hrange := word_char_range hc
  refine ⟨?_, ?_, ?_, ?_, ?_⟩
  · simp only [isBlank, Bool.or_eq_false_iff, Bool.and_eq_false_iff, decide_eq_false_iff_not,
      beq_eq_false_iff_ne]
    omega
  all_goals
    rintro rfl
    revert hrange
    decide

/-- A word is read to its end (`word`). -/
private theorem word_append {w rest : List Char} (hw : ∀ c ∈ w, isAsciiWordChar c = true)
    (hrest : ∀ c ∈ rest.head?, isAsciiWordChar c = false) : word (w ++ rest) = w := by
  induction w with
  | nil =>
    cases rest with
    | nil => rfl
    | cons c more => simp [word, hrest c rfl]
  | cons c w ih =>
    have ih := ih fun d hd => hw d (List.mem_cons_of_mem _ hd)
    rw [word, List.cons_append, List.takeWhile_cons, if_pos (hw c List.mem_cons_self)]
    exact congrArg (c :: ·) ih

/-- A word (`isAsciiWordChar`) in an expression, and what is no word character behind it, is a
token. -/
theorem scan_word {w rest : List Char} (hodd : depth % 2 = 1) (hne : w ≠ [])
    (hw : ∀ c ∈ w, isAsciiWordChar c = true)
    (hrest : ∀ c ∈ rest.head?, isAsciiWordChar c = false) :
    scan q 0 depth pos (w ++ rest) =
      (scan q 0 depth (pos + w.length) rest).map
        (⟨wordKind w, String.ofList w, pos, pos + w.length⟩ :: ·) := by
  have hword := word_append hw hrest
  cases w with
  | nil => exact absurd rfl hne
  | cons c w =>
    have hc := hw c List.mem_cons_self
    -- A word character takes none of the branches before the one for words.
    obtain ⟨hblank, hopen, hclose, hcomma, hequals⟩ := word_char_distinct hc
    have hdrop : (w ++ rest).drop w.length = rest := List.drop_left
    rw [List.cons_append] at hword ⊢
    simp only [scan, hodd, hblank, hopen, hclose, hcomma, hequals, hc, hword, if_true, if_false,
      Bool.false_eq_true, Nat.one_ne_zero, List.length_cons, Nat.add_sub_cancel]
    rw [scan_skip, hdrop, Nat.add_assoc, Nat.add_comm 1]

/-! ## Words -/

/-- Whether a token, if it is a word, has the kind that its characters give it. -/
def WordSound (t : Token) : Prop :=
  t.kind = .identifier ∨ t.kind = .number →
    t.value.toList ≠ [] ∧ (∀ c ∈ t.value.toList, isAsciiWordChar c = true) ∧
      t.kind = wordKind t.value.toList

/-- A token that is no word can stand before sound tokens (`WordSound`). -/
private theorem wordSound_map_cons {x : Except MessageFault (List Token)} {t : Token}
    (ht : t.kind ≠ .identifier ∧ t.kind ≠ .number)
    (hx : ∀ ts, x = .ok ts → ∀ u ∈ ts, WordSound u) :
    ∀ ts, x.map (t :: ·) = .ok ts → ∀ u ∈ ts, WordSound u := by
  intro ts h u hu
  obtain ⟨us, hus, rfl⟩ := map_eq_ok_iff.1 h
  rcases List.mem_cons.1 hu with rfl | hu
  · exact fun hw => (hw.elim ht.1 ht.2).elim
  · exact hx us hus u hu

/-- The word that an expression goes on with has the kind of its characters (`wordKind`). -/
theorem wordSound_word {c : Char} {rest : List Char} (hc : isAsciiWordChar c = true)
    (start stop : Nat) :
    WordSound ⟨wordKind (word (c :: rest)), String.ofList (word (c :: rest)), start, stop⟩ := by
  intro _
  have hw : word (c :: rest) = c :: rest.takeWhile isAsciiWordChar := by
    rw [word, List.takeWhile_cons, if_pos hc]
  refine ⟨?_, ?_, ?_⟩
  · rw [String.toList_ofList, hw]
    exact List.cons_ne_nil _ _
  · rw [String.toList_ofList]
    exact fun d hd => List.all_eq_true.1 List.all_takeWhile d hd
  · rw [String.toList_ofList]

/-- The scanner makes words of word characters only (`isAsciiWordChar`), and numbers of digits only.
-/
theorem wordSound_of_scan (q : Quoting) (skip depth pos : Nat) (s : List Char) :
    ∀ tokens, scan q skip depth pos s = .ok tokens → ∀ t ∈ tokens, WordSound t := by
  fun_induction scan q skip depth pos s
  case case1 =>
    intro ts h
    cases h
    simp
  case case2 ih => exact ih
  case case3 ih | case4 ih | case7 ih | case8 ih | case9 ih | case10 ih =>
    exact wordSound_map_cons (by simp) (ih _)
  case case5 ih => exact wordSound_map_cons (by simp) ih
  case case6 ih => exact ih
  -- Only here a word is made.
  case case11 hc w _ ih =>
    intro ts h u hu
    obtain ⟨us, hus, rfl⟩ := map_eq_ok_iff.1 h
    rcases List.mem_cons.1 hu with rfl | hu
    · exact wordSound_word hc _ _
    · exact ih us hus u hu
  case case12 =>
    intro ts h
    cases h

end Parlance.Token
