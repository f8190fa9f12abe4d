import Parlance.Code.Literal
import Parlance.Proofs.Number.Digits

/-!
# How characters are written in literals

A character stands in a literal behind a backslash with a letter, or as the code behind `\x`, or as
itself. Whatever reads literals back has one case for each of these ways (`escaped_escapeChar`).
-/

namespace Parlance.Code

open Parlance.Number

/-- The letters of the short escapes, each with the character that it stands for. -/
def shortEscapes : List (Char × Char) :=
  [('\\', '\\'), ('"', '"'), ('n', '\n'), ('r', '\r'), ('t', '\t')]

/-- The ways in which a character is written. -/
inductive Escaped (c : Char) : List Char → Prop
  /-- Behind a backslash, by a letter. -/
  | short {letter : Char} (h : (letter, c) ∈ shortEscapes) : Escaped c ['\\', letter]
  /-- By its code, which has two hexadecimal digits. -/
  | code (h : isControl c = true) : Escaped c ('\\' :: 'x' :: hexDigits 2 c.toNat)
  /-- As it is. -/
  | itself (hquote : c ≠ '"') (hslash : c ≠ '\\') (hcontrol : isControl c = false) :
    Escaped c [c]

/-- Every character is written in one of these ways (`Escaped`). -/
theorem escaped_escapeChar (c : Char) : Escaped c (escapeChar c) := by
  unfold escapeChar
  split
  case h_6 hslash hquote hfeed hreturn htab =>
    by_cases hcontrol : isControl c = true
    · rw [if_pos hcontrol]
      exact .code hcontrol
    · rw [if_neg hcontrol]
      exact .itself (Ne.intro hquote) (Ne.intro hslash) (Bool.not_eq_true _ ▸ hcontrol)
  all_goals exact .short (by decide)

/-- The code of a control (`isControl`) character is small. -/
theorem toNat_lt_of_isControl {c : Char} (h : isControl c = true) : c.toNat < 0xA0 := by
  simp only [isControl, Bool.or_eq_true, Bool.and_eq_true, decide_eq_true_eq] at h
  omega

/-- A character that is no control character (`isControl`) is none in particular. -/
theorem ne_of_isControl {c d : Char} (hd : isControl d = true) (hc : isControl c = false) :
    c ≠ d := by
  rintro rfl
  rw [hd] at hc
  cases hc

/-! ## Characters of an escape -/

/-- A hexadecimal digit is no control (`isControl`) character. -/
private theorem isControl_of_digitValue? {c : Char} {d : Nat} (h : digitValue? 16 c = some d) :
    isControl c = false := by
  -- a digit is between `0` and `z`, where no control character is
  have hrange : 0x30 ≤ c.toNat ∧ c.toNat ≤ 0x7A := by
    simp only [digitValue?, Bool.and_eq_true, decide_eq_true_eq] at h
    split at h
    · omega
    · split at h
      · omega
      · split at h
        · omega
        · cases h
  simp only [isControl, Bool.or_eq_false_iff, Bool.and_eq_false_iff, decide_eq_false_iff_not]
  omega

/-- No control character is among digits (`digitsFrom?`) that denote a number. -/
private theorem isControl_of_digitsFrom? {digits : List Char} {value n : Nat}
    (h : digitsFrom? 16 value digits = some n) : ∀ c ∈ digits, isControl c = false := by
  induction digits generalizing value with
  | nil => nofun
  | cons c rest ih =>
    rw [digitsFrom?] at h
    obtain ⟨digit, hdigit, hrest⟩ := Option.bind_eq_some_iff.1 h
    exact List.forall_mem_cons.2 ⟨isControl_of_digitValue? hdigit, ih hrest⟩

/-- No control (`isControl`) character stands in a code of hexadecimal digits. -/
theorem isControl_of_mem_hexEscape {letter : Char} (hletter : isControl letter = false)
    {width n : Nat} (hwidth : 0 < width) (hn : n < 16 ^ width) :
    ∀ c ∈ '\\' :: letter :: hexDigits width n, isControl c = false := by
  obtain ⟨_, hdigits⟩ := hexDigits_spec hwidth hn
  exact List.forall_mem_cons.2 ⟨rfl, List.forall_mem_cons.2
    ⟨hletter, isControl_of_digitsFrom? hdigits⟩⟩

/-- No control (`isControl`) character stands in what a character is written as. -/
theorem isControl_of_mem_escapeChar (c : Char) : ∀ d ∈ escapeChar c, isControl d = false := by
  have hwritten := escaped_escapeChar c
  generalize escapeChar c = written at hwritten ⊢
  cases hwritten with
  | short h =>
    have hletters : ∀ p ∈ shortEscapes, isControl p.1 = false := by decide
    simpa using ⟨rfl, hletters _ h⟩
  | code h =>
    -- a control character is written by its code, in hexadecimal digits
    have hsmall := toNat_lt_of_isControl h
    apply isControl_of_mem_hexEscape rfl (by decide)
    omega
  | itself _ _ hcontrol => simpa using hcontrol

end Parlance.Code
