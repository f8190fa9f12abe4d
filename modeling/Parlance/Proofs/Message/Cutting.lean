import Parlance.Proofs.Message.Braces

/-!
# How a text is cut into tokens

A scanner that makes a token takes a stretch of the text for it that is not empty, and goes on
behind that stretch (`Cut`, `cut_of_scan`). The kind of the token is one that stands where so many
braces are open (`Fits`), and moves their number as `levelAfter` says. So a scanner that has made
some tokens is at a place in the text with as many braces open as those tokens leave
(`exists_scan_of_append`). What it stops at is a character of the text (`index_lt_of_scan`).
-/

namespace Parlance.Grammar

open Parlance.Text Parlance.Token

/-- Whether a token of a kind can stand where `depth` braces are open: a run of text or a brace
between the parts of a message, anything but text in an expression. A brace that closes none is a
token only with quoting. -/
def Fits (q : Quoting) (depth : Nat) (kind : TokenKind) : Prop :=
  if depth % 2 = 0 then
    kind = .text ∨ kind = .openBrace ∨ (kind = .closeBrace ∧ (0 < depth ∨ q.enabled = true))
  else kind ≠ .text ∧ kind ≠ .endOfMessage

/-- The braces that are open after some tokens. -/
def levelThrough (depth : Nat) (tokens : List Token) : Nat :=
  tokens.foldl (fun depth t => levelAfter depth t.kind) depth

/-- No tokens leave the braces as they are (`levelThrough`). -/
@[simp] theorem levelThrough_nil (depth : Nat) : levelThrough depth [] = depth := rfl

/-- Tokens open and close braces (`levelThrough`) one after the other. -/
@[simp] theorem levelThrough_cons (depth : Nat) (t : Token) (rest : List Token) :
    levelThrough depth (t :: rest) = levelThrough (levelAfter depth t.kind) rest := rfl

/-- A token is cut off a text that starts at `pos`, where `depth` braces are open, and the others
follow behind it. -/
structure Cut (q : Quoting) (depth pos : Nat) (text : List Char) (t : Token) (rest : List Token) :
    Prop where
  fits : Fits q depth t.kind
  pos_le : pos ≤ t.start
  start_lt : t.start < t.stop
  stop_le : t.stop ≤ pos + text.length
  value_eq : t.kind ≠ .text →
    t.value.toList = (text.drop (t.start - pos)).take (t.stop - t.start)
  value_of_closeBrace : t.kind = .closeBrace → t.value = "\x7d"
  scan_rest : scan q 0 (levelAfter depth t.kind) t.stop (text.drop (t.stop - pos)) = .ok rest

section

variable {q : Quoting} {depth pos : Nat} {c : Char} {text : List Char} {t : Token}
  {rest : List Token}

/-- What is cut off (`Cut`) behind a character is cut off the text with that character. -/
theorem Cut.cons (h : Cut q depth (pos + 1) text t rest) (c : Char) :
    Cut q depth pos (c :: text) t rest := by
  obtain ⟨hfits, hpos, hstart, hstop, hvalue, hclose, hrest⟩ := h
  have hdrop : ∀ n, pos + 1 ≤ n → (c :: text).drop (n - pos) = text.drop (n - (pos + 1)) := by
    intro n hn
    rw [show n - pos = n - (pos + 1) + 1 by omega, List.drop_succ_cons]
  refine ⟨hfits, by omega, hstart, ?_, ?_, hclose, ?_⟩
  · rw [List.length_cons]
    omega
  · rwa [hdrop t.start hpos]
  · rwa [hdrop t.stop (by omega)]

/-- A token is cut off where it starts when the scanner then passes over the rest of it (`scan`). -/
private theorem cut_of_map_scan {skip : Nat} {first : Token}
    (h : (scan q skip (levelAfter depth first.kind) (pos + 1) text).map (first :: ·) =
      .ok (t :: rest)) (hfits : Fits q depth first.kind)
    (hstart : first.start = pos) (hstop : first.stop = pos + 1 + skip) (hskip : skip ≤ text.length)
    (hvalue : first.kind ≠ .text → first.value.toList = (c :: text).take (skip + 1))
    (hclose : first.kind = .closeBrace → first.value = "\x7d") :
    Cut q depth pos (c :: text) t rest := by
  obtain ⟨ts, hts, heq⟩ := map_eq_ok_iff.1 h
  obtain ⟨rfl, rfl⟩ := List.cons.inj heq
  have hlength : first.stop - pos = skip + 1 := by omega
  refine ⟨hfits, hstart.ge, by omega, ?_, fun htext => ?_, hclose, ?_⟩
  · rw [List.length_cons]
    omega
  · rw [hvalue htext, hstart, Nat.sub_self, List.drop_zero, hlength]
  · rw [hlength, List.drop_succ_cons, hstop, ← scan_skip]
    exact hts

/-- What is left behind a run (`textRun`) of text is the end of the text. -/
theorem textRun_isSuffix (q : Quoting) (depth : Nat) (quoted : Bool) (text : List Char) :
    (textRun q depth quoted text).2 <:+ text := by
  -- what is left is a suffix of what is left one character, or two marks, earlier
  fun_induction textRun q depth quoted text
  case case1 | case7 => exact List.suffix_refl _
  case case4 => exact List.nil_suffix
  case case2 ih | case6 ih => exact ih.trans (List.suffix_cons _ _)
  case case3 hrun ih | case8 hrun ih =>
    rw [hrun] at ih
    exact ih.trans (List.suffix_cons _ _)
  case case5 hrun _ ih =>
    rw [hrun] at ih
    exact (ih.trans (List.suffix_cons _ _)).trans (List.suffix_cons _ _)

/-- A run (`textRun`) of text that does not end at once takes its first character. -/
private theorem length_textRun_le (h : endsText q depth (c :: text) = false) :
    (textRun q depth false (c :: text)).2.length ≤ text.length := by
  -- a mark takes the next character with it, or opens a quoted stretch
  by_cases hmark : q.escape? = some c
  · cases text with
    | nil => simp [textRun, hmark]
    | cons d more =>
      rw [textRun, if_pos hmark]
      dsimp only
      split
      · exact ((textRun_isSuffix q depth false more).trans (List.suffix_cons _ _)).length_le
      · exact (textRun_isSuffix q depth true (d :: more)).length_le
  · rw [textRun_of_plain hmark h]
    exact (textRun_isSuffix q depth false text).length_le

/-- A word (`word`) is what an expression goes on with. -/
private theorem word_cons (hc : isAsciiWordChar c = true) (text : List Char) :
    ∃ n ≤ text.length, (word (c :: text)).length = n + 1 ∧
      word (c :: text) = (c :: text).take (n + 1) := by
  have hprefix : word (c :: text) <+: c :: text := List.takeWhile_prefix _
  have hcons : word (c :: text) = c :: text.takeWhile isAsciiWordChar := by
    rw [word, List.takeWhile_cons, if_pos hc]
  refine ⟨(text.takeWhile isAsciiWordChar).length, (List.takeWhile_prefix _).length_le, ?_, ?_⟩
  · rw [hcons, List.length_cons]
  · have htake := List.prefix_iff_eq_take.1 hprefix
    rwa [hcons, List.length_cons, ← hcons] at htake

/-- A word opens and closes nothing (`levelAfter`). -/
private theorem levelAfter_wordKind (depth : Nat) (w : List Char) :
    levelAfter depth (wordKind w) = depth := by
  unfold wordKind
  split <;> rfl

/-- A word is a number or an identifier (`wordKind`). -/
theorem wordKind_cases (w : List Char) : wordKind w = .number ∨ wordKind w = .identifier := by
  unfold wordKind
  split
  · exact .inl rfl
  · exact .inr rfl

/-- At an odd depth anything but text and the end fits (`Fits`). -/
private theorem fits_of_odd {kind : TokenKind} (hodd : ¬ depth % 2 = 0)
    (hkind : kind ≠ .text ∧ kind ≠ .endOfMessage) : Fits q depth kind := by
  rwa [Fits, if_neg hodd]

/-- The first token that the scanner makes is cut off its text (`Cut`). -/
theorem cut_of_scan {skip : Nat} (h : scan q skip depth pos text = .ok (t :: rest)) :
    Cut q depth pos text t rest := by
  fun_induction scan q skip depth pos text
  case case1 => cases h
  case case2 ih => exact (ih h).cons _
  case case3 =>
    exact cut_of_map_scan h (by simp [Fits]) rfl rfl (Nat.zero_le _) (fun _ => by simp) (by simp)
  case case4 heven hends hopen _ =>
    -- the only other character that ends text is a closing brace
    simp only [endsText, Bool.and_eq_true, Bool.or_eq_true, beq_iff_eq, hopen, false_and, false_or,
      decide_eq_true_eq] at hends
    obtain ⟨-, rfl, hclosing⟩ := hends
    exact cut_of_map_scan h (by simp [Fits, heven, hclosing]) rfl rfl (Nat.zero_le _)
      (fun _ => by simp) fun _ => rfl
  case case5 c text heven hends value after hrun length _ _ =>
    have hshort : after.length ≤ text.length := by
      have hle := length_textRun_le (Bool.not_eq_true _ ▸ hends)
      rwa [hrun] at hle
    have hlength : length = text.length + 1 - after.length := rfl
    exact cut_of_map_scan h (by simp [Fits, heven]) rfl (by dsimp only; omega) (by omega)
      (fun htext => absurd rfl htext) (by simp)
  case case6 ih => exact (ih h).cons _
  case case7 | case8 | case9 | case10 =>
    exact cut_of_map_scan h (fits_of_odd ‹_› (by simp)) rfl rfl (Nat.zero_le _) (fun _ => by simp)
      (by simp)
  case case11 depth pos c text hodd _ _ _ _ _ hc w _ _ =>
    obtain ⟨n, hn, hlength, htake⟩ :
        ∃ n ≤ text.length, w.length = n + 1 ∧ w = (c :: text).take (n + 1) := word_cons hc text
    have hskip : w.length - 1 = n := by omega
    rw [hskip, ← levelAfter_wordKind depth w] at h
    refine cut_of_map_scan h (fits_of_odd hodd ?_) rfl ?_ hn (fun _ => ?_) fun hclose => ?_
    · rcases wordKind_cases w with hkind | hkind <;> simp [hkind]
    · change pos + w.length = pos + 1 + n
      omega
    · rw [String.toList_ofList]
      exact htake
    · rcases wordKind_cases w with hkind | hkind <;> cases hkind.symm.trans hclose
  case case12 => cases h

/-- Where the scanner is after some tokens, as many braces are open as those tokens leave
(`levelThrough`). -/
theorem exists_scan_of_append {before after : List Token}
    (h : scan q 0 depth pos text = .ok (before ++ after)) :
    ∃ n ≤ text.length,
      scan q 0 (levelThrough depth before) (pos + n) (text.drop n) = .ok after ∧
        ∀ t ∈ before, t.stop ≤ pos + n := by
  induction before generalizing depth pos text with
  | nil => exact ⟨0, Nat.zero_le _, h, by simp⟩
  | cons t before ih =>
    have hcut := cut_of_scan h
    obtain ⟨n, hn, hscan, hbefore⟩ := ih hcut.scan_rest
    have hpos := hcut.pos_le
    have hstart := hcut.start_lt
    have hstop := hcut.stop_le
    rw [List.length_drop] at hn
    rw [List.drop_drop] at hscan
    -- The scanner is past the first token and past what the induction passes behind it.
    refine ⟨t.stop - pos + n, by omega, ?_, ?_⟩
    · rwa [show pos + (t.stop - pos + n) = t.stop + n by omega]
    · intro u hu
      rcases List.mem_cons.1 hu with rfl | hu
      · omega
      · have hle := hbefore u hu
        omega

/-- What the scanner stops at (`scan`) is a character of an expression. -/
theorem index_lt_of_scan {skip : Nat} {f : MessageFault}
    (h : scan q skip depth pos text = .error f) :
    f.located = f.index ∧ f.index < pos + text.length ∧
      ∃ found, f.reason = .unexpected inExpression found := by
  fun_induction scan q skip depth pos text
  case case1 => cases h
  case case2 ih | case6 ih =>
    refine (ih h).imp_right (And.imp_left fun hlt => ?_)
    rw [List.length_cons]
    omega
  case case3 ih | case4 ih | case7 ih | case8 ih | case9 ih | case10 ih =>
    refine (ih _ (map_eq_error_iff.1 h)).imp_right (And.imp_left fun hlt => ?_)
    rw [List.length_cons]
    omega
  case case5 ih | case11 ih =>
    refine (ih (map_eq_error_iff.1 h)).imp_right (And.imp_left fun hlt => ?_)
    rw [List.length_cons]
    omega
  -- Only the last case of the scanner refuses; all others hand on a failure from further on.
  case case12 =>
    cases h
    exact ⟨rfl, by simp, _, rfl⟩

end

end Parlance.Grammar
