import Mathlib.Algebra.Group.Nat.Defs
import Parlance.Number.Digits

/-!
# Reading and writing decimal digits

The digits of a number read back as the number (`ofDigits?_decimalDigits`, `hexDigits_spec`), and a
number has no more digits than a text that it is read from (`length_decimalDigits_le`).
-/

namespace Parlance.Number

/-- A power of ten (`tenTo`) is ten times the one before. -/
theorem tenTo_succ (n : Nat) : tenTo (n + 1) = tenTo n * 10 := rfl

/-- A number that goes on with some digits (`digitsFrom?`) is less than the power of ten after them.
-/
theorem digitsFrom?_lt {digits : List Char} {acc n k : Nat} (hacc : acc < tenTo k)
    (h : digitsFrom? 10 acc digits = some n) : n < tenTo (k + digits.length) := by
  induction digits generalizing acc k with
  | nil =>
    cases h
    exact hacc
  | cons c rest ih =>
    rw [digitsFrom?] at h
    obtain ⟨d, hd, hrest⟩ := Option.bind_eq_some_iff.1 h
    have hlt : d < 10 := by
      unfold digitValue? at hd
      grind
    -- The invariant: what has been read is less than the power of ten for its length.
    have hnext : acc * 10 + d < tenTo (k + 1) := by
      rw [tenTo_succ]
      omega
    have hbound := ih hnext hrest
    rwa [List.length_cons, Nat.add_comm rest.length, ← Nat.add_assoc]

/-- A number has no more digits (`decimalDigits`) than the text it is read from. -/
theorem length_decimalDigits_le {digits : List Char} (hne : digits ≠ []) :
    (decimalDigits ((ofDigits? digits).getD 0)).length ≤ digits.length := by
  have hpos : 0 < digits.length := List.length_pos_iff.2 hne
  refine (Nat.length_toDigits_le_iff (by omega) hpos).2 ?_
  cases h : ofDigits? digits with
  | none => exact Nat.pow_pos (by omega)
  | some n =>
    rw [ofDigits?, ofBaseDigits?, if_neg (by simpa using hne)] at h
    have hbound := digitsFrom?_lt (k := 0) Nat.one_pos h
    rwa [Nat.zero_add] at hbound

/-- Decimal digits (`decimalDigits`) are digits. -/
theorem isDigit_of_mem_decimalDigits {n : Nat} {c : Char} (hc : c ∈ decimalDigits n) :
    c.isDigit = true :=
  Nat.isDigit_of_mem_toDigits (by omega) (by omega) hc

/-- Decimal digits with zeros in front (`paddedDecimal`) are digits. -/
theorem isDigit_of_mem_paddedDecimal {width n : Nat} {c : Char} (hc : c ∈ paddedDecimal width n) :
    c.isDigit = true := by
  rcases List.mem_append.1 hc with hzero | hdigit
  · rw [List.eq_of_mem_replicate hzero]
    decide
  · exact isDigit_of_mem_decimalDigits hdigit

/-- Every number has a digit. -/
theorem decimalDigits_ne_nil (n : Nat) : decimalDigits n ≠ [] := Nat.toDigits_ne_nil

/-- The digits of a number that is not zero do not begin with a zero. -/
theorem head?_decimalDigits {n : Nat} (hn : 0 < n) : (decimalDigits n).head? ≠ some '0' := by
  induction n using Nat.strongRecOn with
  | _ n ih =>
    by_cases hlt : n < 10
    · have hdigit : ∀ d < 10, 0 < d → Nat.digitChar d ≠ '0' := by decide
      rw [decimalDigits, Nat.toDigits_of_lt_base hlt]
      simpa using hdigit n hlt hn
    · -- The leading digit is that of a tenth of the number.
      have htenth := ih (n / 10) (by omega) (by omega)
      rw [decimalDigits, Nat.toDigits_of_base_le (by omega) (by omega)]
      cases htoDigits : Nat.toDigits 10 (n / 10) with
      | nil => exact absurd htoDigits Nat.toDigits_ne_nil
      | cons c cs =>
        rw [decimalDigits, htoDigits] at htenth
        exact htenth

/-- A decimal digit has a value (`digitValue?`). -/
private theorem digitValue?_of_isDigit {c : Char} (hc : c.isDigit = true) :
    digitValue? 10 c = some (c.toNat - '0'.toNat) := by
  simp only [Char.isDigit, Bool.and_eq_true, decide_eq_true_eq, ge_iff_le,
    UInt32.le_iff_toNat_le] at hc
  have hlow : 48 ≤ c.toNat := hc.1
  have hhigh : c.toNat ≤ 57 := hc.2
  have hzero : '0'.toNat = 48 := rfl
  unfold digitValue?
  grind

/-- Decimal digits (`digitsFrom?`) are read as core reads them. -/
theorem digitsFrom?_of_isDigit {digits : List Char} (h : ∀ c ∈ digits, c.isDigit = true)
    (acc : Nat) : digitsFrom? 10 acc digits = some (Nat.ofDigitChars 10 digits acc) := by
  induction digits generalizing acc with
  | nil => simp [digitsFrom?]
  | cons c rest ih =>
    have hc := digitValue?_of_isDigit (h c List.mem_cons_self)
    rw [digitsFrom?, hc, Option.bind_some, ih fun d hd => h d (List.mem_cons_of_mem _ hd),
      Nat.ofDigitChars_cons, Nat.mul_comm]

/-- The digits (`ofDigits?`) of a number read back as the number. -/
theorem ofDigits?_decimalDigits (n : Nat) : ofDigits? (decimalDigits n) = some n := by
  have hread := digitsFrom?_of_isDigit (fun _ hc => isDigit_of_mem_decimalDigits (n := n) hc) 0
  rw [ofDigits?, ofBaseDigits?, if_neg (by simpa using decimalDigits_ne_nil n), hread,
    decimalDigits, Nat.ofDigitChars_toDigits (by omega) (by omega)]

/-- Digits (`digitsFrom?`) are read one after the other. -/
private theorem digitsFrom?_append (base acc : Nat) (digits more : List Char) :
    digitsFrom? base acc (digits ++ more) =
      (digitsFrom? base acc digits).bind fun n => digitsFrom? base n more := by
  induction digits generalizing acc with
  | nil => rfl
  | cons c rest ih =>
    rw [List.cons_append, digitsFrom?, digitsFrom?, Option.bind_assoc]
    exact congrArg _ (funext fun d => ih _)

/-- A final zero (`ofDigits?`) makes a number ten times as large. -/
theorem ofDigits?_append_zero {digits : List Char} {n : Nat} (h : ofDigits? digits = some n) :
    ofDigits? (digits ++ ['0']) = some (n * 10) := by
  rw [ofDigits?, ofBaseDigits?] at h ⊢
  split at h
  · cases h
  · rw [if_neg (by simp), digitsFrom?_append, h]
    rfl

/-- Zeros in front of digits (`digitsFrom?`) count for nothing. -/
private theorem digitsFrom?_replicate {base : Nat} (hbase : 0 < base) (k : Nat) (digits : List Char)
    : digitsFrom? base 0 (List.replicate k '0' ++ digits) = digitsFrom? base 0 digits := by
  have hzero : digitValue? base '0' = some 0 := by
    simp [digitValue?, hbase]
  induction k with
  | zero => rfl
  | succ k ih =>
    rw [List.replicate_succ, List.cons_append, digitsFrom?, hzero, Option.bind_some, Nat.zero_mul]
    exact ih

/-- The digits (`ofDigits?`) of a number read back as the number when zeros stand in front of them.
-/
theorem ofDigits?_paddedDecimal (width n : Nat) : ofDigits? (paddedDecimal width n) = some n := by
  have hne := decimalDigits_ne_nil n
  have hread := ofDigits?_decimalDigits n
  rw [ofDigits?, ofBaseDigits?, if_neg (by simpa using hne)] at hread
  rw [ofDigits?, ofBaseDigits?, if_neg (by simp [paddedDecimal, hne]), paddedDecimal,
    digitsFrom?_replicate (by omega), hread]

/-! ## Hexadecimal digits -/

theorem digitValue?_digitChar : ∀ d < 16, digitValue? 16 (Nat.digitChar d) = some d := by
  decide

/-- The hexadecimal digits (`digitsFrom?`) of a number read back as the number. -/
theorem digitsFrom?_toDigits (n : Nat) : digitsFrom? 16 0 (Nat.toDigits 16 n) = some n := by
  induction n using Nat.strongRecOn with
  | _ n ih =>
    have hlast := digitValue?_digitChar (n % 16) (Nat.mod_lt n (by omega))
    by_cases hlt : n < 16
    · rw [Nat.toDigits_of_lt_base hlt, digitsFrom?, ← Nat.mod_eq_of_lt hlt, hlast]
      simp [digitsFrom?]
    · rw [Nat.toDigits_of_base_le (by omega) (by omega), digitsFrom?_append, ih (n / 16) (by omega)]
      simp only [Option.bind_some, digitsFrom?, hlast]
      rw [Nat.div_add_mod']

/-- A number that has no more digits than the width has just as many with zeros in front
(`hexDigits`). -/
theorem hexDigits_spec {width n : Nat} (hwidth : 0 < width) (h : n < 16 ^ width) :
    (hexDigits width n).length = width ∧ digitsFrom? 16 0 (hexDigits width n) = some n := by
  have hlength := (Nat.length_toDigits_le_iff (by omega) hwidth).2 h
  rw [hexDigits, digitsFrom?_replicate (by omega), digitsFrom?_toDigits]
  refine ⟨?_, rfl⟩
  rw [List.length_append, List.length_replicate]
  omega

end Parlance.Number
