import Parlance.Proofs.Text.Casing

/-!
# Code points

Texts of the program are made of characters, which are the code points that are no surrogates. What
is written for a text can be told for any code points, surrogates included: `CodePoint.char?` gives
the character of a code point that has one, and `points` the code points of characters.
-/

namespace Parlance.Text

/-- A code point of Unicode, which may be a surrogate. -/
structure CodePoint where
  code : Nat
  code_lt : code < 0x110000
deriving DecidableEq, Repr

namespace CodePoint

/-- The code point of a character. -/
def ofChar (c : Char) : CodePoint where
  code := c.toNat
  code_lt := by
    have hvalid : c.toNat.isValidChar := c.valid
    rcases hvalid with h | ⟨-, h⟩ <;> omega

/-- The character of a code point, which a surrogate does not have. -/
def char? (p : CodePoint) : Option Char :=
  if p.code.isValidChar then some (Char.ofNat p.code) else none

/-- Whether a code point is a surrogate. -/
def IsSurrogate (p : CodePoint) : Prop := 0xD800 ≤ p.code ∧ p.code < 0xE000

/-- Whether a code point is a control character. -/
def IsControl (p : CodePoint) : Prop := p.code < 0x20 ∨ (0x7F ≤ p.code ∧ p.code < 0xA0)

/-- Code points are told by their numbers. -/
@[ext]
theorem ext {p q : CodePoint} (h : p.code = q.code) : p = q := by
  cases p
  cases q
  simp only at h
  subst h
  rfl

/-- The number of a character (`CodePoint.ofChar`). -/
@[simp]
theorem code_ofChar (c : Char) : (ofChar c).code = c.toNat := rfl

/-- A character is found again (`char?`) from its code point. -/
@[simp]
theorem char?_ofChar (c : Char) : (ofChar c).char? = some c := by
  have hvalid : c.toNat.isValidChar := c.valid
  rw [char?, code_ofChar, if_pos hvalid, Char.ofNat_toNat]

/-- A character is one code point only. -/
theorem eq_ofChar_of_char? {p : CodePoint} {c : Char} (h : p.char? = some c) : p = ofChar c := by
  rw [char?] at h
  split at h
  · next hvalid =>
    cases h
    apply ext
    rw [code_ofChar, toNat_ofNat_of_valid hvalid]
  · cases h

/-- Characters are told by their code points. -/
@[simp]
theorem ofChar_inj {c d : Char} : ofChar c = ofChar d ↔ c = d := by
  constructor
  · intro h
    have hchar := char?_ofChar c
    rw [h, char?_ofChar] at hchar
    exact (Option.some.inj hchar).symm
  · rintro rfl
    rfl

/-- The code points without a character are the surrogates (`IsSurrogate`). -/
theorem char?_eq_none_iff {p : CodePoint} : p.char? = none ↔ p.IsSurrogate := by
  have hlt := p.code_lt
  rw [char?]
  -- below the limit, what is no character is a surrogate
  split
  · next hvalid =>
    simp only [Nat.isValidChar] at hvalid
    simp only [IsSurrogate, reduceCtorEq, false_iff]
    omega
  · next hvalid =>
    simp only [Nat.isValidChar] at hvalid
    simp only [IsSurrogate, true_iff]
    omega

end CodePoint

/-- The code points of characters. -/
def points (s : List Char) : List CodePoint := s.map CodePoint.ofChar

/-- An empty text has no code points (`points`). -/
@[simp]
theorem points_nil : points [] = [] := rfl

/-- The code points (`points`) of a text stand one after the other. -/
@[simp]
theorem points_cons (c : Char) (s : List Char) : points (c :: s) = .ofChar c :: points s := rfl

/-- The code points (`points`) of a text that follows another follow those. -/
@[simp]
theorem points_append (s t : List Char) : points (s ++ t) = points s ++ points t := List.map_append

end Parlance.Text
