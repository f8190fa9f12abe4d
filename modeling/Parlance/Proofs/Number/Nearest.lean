import Mathlib.Algebra.Order.Field.Power
import Mathlib.Data.Nat.Log
import Mathlib.Tactic.Linarith
import Mathlib.Tactic.NormNum
import Mathlib.Tactic.Ring
import Parlance.Number.Double

/-!
# The nearest floating-point number

A number of 53 bits is the nearest one to every quotient between the middles of the gaps beside it,
and to the middles themselves if its mantissa is even (`ofRatio_eq_of_roundsTo`). Below a power of
two the gap is half as wide as above it, and `RoundsTo` takes that into account. What comes out of
rounding has the mantissa and exponent that belong to its value (`canonical_ofDecimal`).
-/

namespace Parlance.Number

/-! ## Powers and quotients -/

/-- `twoTo` is a power of two. -/
theorem twoTo_eq (n : Nat) : twoTo n = 2 ^ n := rfl

/-- `tenTo` is a power of ten. -/
theorem tenTo_eq (n : Nat) : tenTo n = 10 ^ n := rfl

/-- A power is the quotient of one with a natural exponent and another, of which one is one. -/
theorem zpow_eq_div (b : ℚ) (e : ℤ) : b ^ e = b ^ e.toNat / b ^ (-e).toNat := by
  rcases le_total 0 e with he | he
  · obtain ⟨n, rfl⟩ := Int.eq_ofNat_of_zero_le he
    simp
  · obtain ⟨n, hn⟩ := Int.eq_ofNat_of_zero_le (Int.neg_nonneg.2 he)
    obtain rfl : e = -(n : ℤ) := by omega
    simp

/-- Powers of two are positive. -/
theorem two_zpow_pos (e : ℤ) : (0 : ℚ) < 2 ^ e := zpow_pos (by norm_num) e

/-- Powers of two multiply by adding exponents. -/
theorem two_zpow_add (e f : ℤ) : (2 : ℚ) ^ (e + f) = 2 ^ e * 2 ^ f := zpow_add₀ (by norm_num) e f

namespace Double

/-- A scaled quotient (`scaledRatio`) is the quotient divided by the power of two. -/
private theorem scaledRatio_div (num den : Nat) (e : ℤ) :
    ((scaledRatio num den e).1 : ℚ) / (scaledRatio num den e).2 = num / den / 2 ^ e := by
  rw [zpow_eq_div, scaledRatio, twoTo_eq, twoTo_eq, div_div_eq_mul_div, div_mul_eq_mul_div, div_div]
  push_cast
  rfl

/-- A scaled quotient has a positive denominator. -/
private theorem scaledRatio_pos {den : Nat} (hden : 0 < den) (num : Nat) (e : ℤ) :
    0 < (scaledRatio num den e).2 :=
  Nat.mul_pos hden (Nat.pow_pos (by omega))

end Double

/-! ## Rounding a quotient -/

/-- A quotient that is at most a half from an integer is rounded to it (`divHalfEven`); one in the
middle must be beside an even integer. -/
private theorem divHalfEven_eq_of_le {n d m : Nat} (hd : 0 < d) (hlow : 2 * (d * m) ≤ 2 * n + d)
    (hhigh : 2 * n ≤ 2 * (d * m) + d) (hbelow : 2 * n + d = 2 * (d * m) → m % 2 = 0)
    (habove : 2 * n = 2 * (d * m) + d → m % 2 = 0) : divHalfEven n d = m := by
  have hn := Nat.div_add_mod n d
  have hr := Nat.mod_lt n hd
  have hupper : n / d ≤ m := by
    by_contra hlt
    have := Nat.mul_le_mul_left d (Nat.succ_le_of_lt (Nat.lt_of_not_le hlt))
    rw [Nat.mul_succ] at this
    omega
  have hlower : m ≤ n / d + 1 := by
    by_contra hlt
    have := Nat.mul_le_mul_left d (Nat.succ_le_of_lt (Nat.lt_of_not_le hlt))
    rw [Nat.mul_succ, Nat.mul_succ] at this
    omega
  unfold divHalfEven
  dsimp only
  -- the integer part is the integer or the one before it
  obtain rfl | rfl : n / d = m ∨ n / d + 1 = m := by omega
  · split
    · rfl
    · split
      · omega
      · exact if_pos (habove (by omega))
  · rw [Nat.mul_succ] at hlow hbelow
    split
    · omega
    · split
      · rfl
      · have heven := hbelow (by omega)
        exact if_neg (by omega)

/-- A quotient that is near to an integer is rounded to it; one in the middle must be near to an
even integer. -/
theorem divHalfEven_eq {n d m : Nat} (hd : 0 < d) (hlow : (m : ℚ) - 1 / 2 ≤ n / d)
    (hhigh : (n / d : ℚ) ≤ m + 1 / 2)
    (htie : (n / d : ℚ) = m - 1 / 2 ∨ (n / d : ℚ) = m + 1 / 2 → m % 2 = 0) :
    divHalfEven n d = m := by
  have hdq : (0 : ℚ) < d := by exact_mod_cast hd
  rw [le_div_iff₀ hdq] at hlow
  rw [div_le_iff₀ hdq] at hhigh
  simp only [div_eq_iff hdq.ne'] at htie
  -- all of this in integers, with nothing divided
  refine divHalfEven_eq_of_le hd ?_ ?_ (fun h => htie (.inl ?_)) fun h => htie (.inr ?_)
  · have h : (2 * (d * m) : ℚ) ≤ 2 * n + d := by linarith
    exact_mod_cast h
  · have h : (2 * n : ℚ) ≤ 2 * (d * m) + d := by linarith
    exact_mod_cast h
  · have h : (2 * n + d : ℚ) = 2 * (d * m) := by exact_mod_cast h
    linarith
  · have h : (2 * n : ℚ) = 2 * (d * m) + d := by exact_mod_cast h
    linarith

/-- A quotient is not rounded below (`divHalfEven`) an integer that it is not below. -/
private theorem le_divHalfEven {n d m : Nat} (hd : 0 < d) (h : (m : ℚ) ≤ n / d) :
    m ≤ divHalfEven n d := by
  have hdq : (0 : ℚ) < d := by exact_mod_cast hd
  have hm : m ≤ n / d := by
    rw [Nat.le_div_iff_mul_le hd]
    rw [le_div_iff₀ hdq] at h
    exact_mod_cast h
  unfold divHalfEven
  dsimp only
  split_ifs <;> omega

/-- A quotient is not rounded above (`divHalfEven`) an integer that it is below. -/
private theorem divHalfEven_le {n d m : Nat} (hd : 0 < d) (h : (n / d : ℚ) < m) :
    divHalfEven n d ≤ m := by
  have hdq : (0 : ℚ) < d := by exact_mod_cast hd
  have hm : n / d < m := by
    rw [Nat.div_lt_iff_lt_mul hd]
    rw [div_lt_iff₀ hdq] at h
    exact_mod_cast h
  unfold divHalfEven
  dsimp only
  split_ifs <;> omega

namespace Double

/-! ## The binade of a quotient -/

/-- The exponent at which a quotient has just 53 bits before the point. -/
def binade (num den : Nat) : Int :=
  let estimate : Int := (num.log2 : Int) - (den.log2 : Int) - 53
  let (n, d) := scaledRatio num den estimate
  if mantissaLimit ≤ n / d then estimate + 1 else estimate

/-- The exponent at which a quotient is rounded. -/
def place (num den : Nat) : Int := max (binade num den) leastExponent

/-- The mantissa that a quotient is rounded to, which may need a bit too many. -/
def rounded (num den : Nat) : Nat :=
  divHalfEven (scaledRatio num den (place num den)).1 (scaledRatio num den (place num den)).2

/-- Rounding a quotient (`ofRatio`): one that is rounded up to a whole binade goes to the next
exponent, and one beyond the greatest is infinite. -/
theorem ofRatio_eq {num : Nat} (hnum : num ≠ 0) (negative : Bool) (den : Nat) :
    ofRatio negative num den =
      if rounded num den = mantissaLimit then
        if greatestExponent < place num den + 1 then .infinite negative
        else .finite negative leastNormal (place num den + 1)
      else if greatestExponent < place num den then .infinite negative
      else .finite negative (rounded num den) (place num den) := by
  rw [ofRatio, if_neg hnum]
  change (let carried := if rounded num den = mantissaLimit then
    (leastNormal, place num den + 1) else (rounded num den, place num den);
    if greatestExponent < carried.2 then Double.infinite negative
    else .finite negative carried.1 carried.2) = _
  by_cases hcarry : rounded num den = mantissaLimit
  · rw [if_pos hcarry, if_pos hcarry]
  · rw [if_neg hcarry, if_neg hcarry]

/-- Mantissas have 53 bits. -/
theorem mantissaLimit_eq : (mantissaLimit : ℚ) = 2 ^ (53 : ℤ) := by norm_num [mantissaLimit]

/-- The least mantissa with all bits has 52 zeros behind its first bit. -/
private theorem leastNormal_eq : (leastNormal : ℚ) = 2 ^ (52 : ℤ) := by norm_num [leastNormal]

section

variable {num den : Nat} (hnum : 0 < num) (hden : 0 < den)

include hnum hden

/-- The numbers of bits tell the size of a quotient up to a factor of four. -/
theorem log2_bounds :
    (2 : ℚ) ^ ((num.log2 : ℤ) - den.log2 - 1) < num / den ∧
      (num / den : ℚ) < 2 ^ ((num.log2 : ℤ) - den.log2 + 1) := by
  have hdq : (0 : ℚ) < den := by exact_mod_cast hden
  have hlow : (2 : ℚ) ^ (num.log2 : ℤ) ≤ num := by
    exact_mod_cast Nat.log2_self_le hnum.ne'
  have hhigh : (num : ℚ) < 2 ^ ((num.log2 : ℤ) + 1) := by
    exact_mod_cast Nat.lt_log2_self (n := num)
  have hlow' : (2 : ℚ) ^ (den.log2 : ℤ) ≤ den := by
    exact_mod_cast Nat.log2_self_le hden.ne'
  have hhigh' : (den : ℚ) < 2 ^ ((den.log2 : ℤ) + 1) := by
    exact_mod_cast Nat.lt_log2_self (n := den)
  -- Each bound comes from the opposite bounds of numerator and denominator.
  constructor
  · rw [lt_div_iff₀ hdq]
    calc (2 : ℚ) ^ ((num.log2 : ℤ) - den.log2 - 1) * den
        < 2 ^ ((num.log2 : ℤ) - den.log2 - 1) * 2 ^ ((den.log2 : ℤ) + 1) :=
          mul_lt_mul_of_pos_left hhigh' (two_zpow_pos _)
      _ = 2 ^ (num.log2 : ℤ) := by rw [← two_zpow_add]; congr 1; ring
      _ ≤ num := hlow
  · rw [div_lt_iff₀ hdq]
    calc (num : ℚ) < 2 ^ ((num.log2 : ℤ) + 1) := hhigh
      _ = 2 ^ ((num.log2 : ℤ) - den.log2 + 1) * 2 ^ (den.log2 : ℤ) := by
          rw [← two_zpow_add]; congr 1; ring
      _ ≤ 2 ^ ((num.log2 : ℤ) - den.log2 + 1) * den :=
          mul_le_mul_of_nonneg_left hlow' (two_zpow_pos _).le

/-- The mantissa of a quotient at its binade (`binade`) has just 53 bits. -/
theorem binade_bounds :
    (2 : ℚ) ^ (52 + binade num den) ≤ num / den ∧
      (num / den : ℚ) < 2 ^ (53 + binade num den) := by
  obtain ⟨hlow, hhigh⟩ := log2_bounds hnum hden
  set estimate : ℤ := (num.log2 : ℤ) - den.log2 - 53 with hestimate
  -- The estimate may be one too small, which the integer quotient tells.
  have hsplit :
      mantissaLimit ≤ (scaledRatio num den estimate).1 / (scaledRatio num den estimate).2 ↔
      (2 : ℚ) ^ (53 + estimate) ≤ num / den := by
    have hpos := scaledRatio_pos hden num estimate
    have hposq : (0 : ℚ) < (scaledRatio num den estimate).2 := by exact_mod_cast hpos
    rw [Nat.le_div_iff_mul_le hpos, two_zpow_add, ← le_div_iff₀ (two_zpow_pos estimate),
      ← scaledRatio_div, le_div_iff₀ hposq, ← mantissaLimit_eq]
    exact_mod_cast Iff.rfl
  have hbinade : binade num den = if mantissaLimit ≤
      (scaledRatio num den estimate).1 / (scaledRatio num den estimate).2 then estimate + 1
      else estimate := rfl
  rw [hbinade]
  split
  · next hlarge =>
    refine ⟨?_, hhigh.trans_eq ?_⟩
    · convert hsplit.1 hlarge using 2
      ring
    · congr 1
      omega
  · next hsmall =>
    refine ⟨hlow.le.trans_eq' ?_, not_le.1 fun h => hsmall (hsplit.2 h)⟩
    congr 1
    omega

/-- A quotient is in one binade (`binade`) only. -/
theorem binade_eq {e : ℤ} (hlow : (2 : ℚ) ^ (52 + e) ≤ num / den)
    (hhigh : (num / den : ℚ) < 2 ^ (53 + e)) : binade num den = e := by
  obtain ⟨hlow', hhigh'⟩ := binade_bounds hnum hden
  have h := (zpow_lt_zpow_iff_right₀ (by norm_num)).1 (hlow.trans_lt hhigh')
  have h' := (zpow_lt_zpow_iff_right₀ (by norm_num)).1 (hlow'.trans_lt hhigh)
  omega

/-- A quotient of the least binade or below is rounded at the least exponent (`leastExponent`), any
other at that of its binade. -/
theorem place_eq {e : ℤ} (hlow : (2 : ℚ) ^ (52 + e) ≤ num / den ∨ e = leastExponent)
    (hhigh : (num / den : ℚ) < 2 ^ (53 + e)) (hleast : leastExponent ≤ e) :
    place num den = e := by
  rw [place]
  rcases hlow with hlow | rfl
  · rw [binade_eq hnum hden hlow hhigh, max_eq_left hleast]
  · refine max_eq_right ?_
    by_contra hgt
    obtain ⟨hlow', -⟩ := binade_bounds hnum hden
    have := (zpow_lt_zpow_iff_right₀ (by norm_num)).1 (hlow'.trans_lt hhigh)
    omega

omit hnum in
/-- At the place of rounding (`rounded`), a quotient that is near to a mantissa is rounded to it. -/
theorem rounded_eq {m : Nat}
    (hlow : (m : ℚ) - 1 / 2 ≤ num / den / 2 ^ place num den)
    (hhigh : (num / den / 2 ^ place num den : ℚ) ≤ m + 1 / 2)
    (htie : (num / den / 2 ^ place num den : ℚ) = m - 1 / 2 ∨
      (num / den / 2 ^ place num den : ℚ) = m + 1 / 2 → m % 2 = 0) :
    rounded num den = m := by
  rw [← scaledRatio_div] at hlow hhigh htie
  exact divHalfEven_eq (scaledRatio_pos hden num _) hlow hhigh htie

end

/-! ## Numbers with their own mantissa -/

/-- Whether a finite number has the mantissa and the exponent that belong to its value. -/
inductive Canonical : Double → Prop
  | finite {negative : Bool} {m : Nat} {e : Int} (below : m < mantissaLimit)
      (full : leastNormal ≤ m ∨ e = leastExponent) (least : leastExponent ≤ e)
      (greatest : e ≤ greatestExponent) : Canonical (.finite negative m e)
  | infinite {negative : Bool} : Canonical (.infinite negative)
  | notANumber : Canonical .notANumber

/-- Zero is canonical (`Canonical`). -/
private theorem canonical_zero (negative : Bool) : Canonical (.finite negative 0 leastExponent) :=
  .finite (by decide) (.inr rfl) le_rfl (by decide)

/-- Rounding gives a number its own mantissa (`Canonical`). -/
theorem canonical_ofRatio (negative : Bool) (num : Nat) {den : Nat} (hden : 0 < den) :
    Canonical (ofRatio negative num den) := by
  by_cases hzero : num = 0
  · rw [ofRatio, if_pos hzero]
    exact canonical_zero negative
  have hnum := Nat.pos_of_ne_zero hzero
  obtain ⟨hlow, hhigh⟩ := binade_bounds hnum hden
  have hplace : leastExponent ≤ place num den := le_max_right _ _
  have hpos := scaledRatio_pos hden num (place num den)
  -- the place is at or above the binade, so the quotient has no more than 53 bits before the point
  have hle : rounded num den ≤ mantissaLimit := by
    rw [rounded]
    refine divHalfEven_le hpos ?_
    rw [scaledRatio_div, div_lt_iff₀ (two_zpow_pos _), mantissaLimit_eq, ← two_zpow_add]
    refine hhigh.trans_le (zpow_le_zpow_right₀ (by norm_num) ?_)
    have := le_max_left (binade num den) leastExponent
    rw [place]
    omega
  have hfull : leastNormal ≤ rounded num den ∨ place num den = leastExponent := by
    rcases max_choice (binade num den) leastExponent with hmax | hmax
    · rw [rounded]
      refine .inl (le_divHalfEven hpos ?_)
      rw [scaledRatio_div, le_div_iff₀ (two_zpow_pos _), leastNormal_eq, ← two_zpow_add, place,
        hmax]
      exact hlow
    · exact .inr hmax
  rw [ofRatio_eq hzero]
  split_ifs with hcarry hlarge hlarge
  · exact .infinite
  · exact .finite (by decide) (.inl le_rfl) (by omega) (by omega)
  · exact .infinite
  · exact .finite (by omega) hfull hplace (by omega)

/-- A decimal is a quotient (`Decimal.ratio`) with a positive denominator. -/
theorem ratio_pos (d : Decimal) : 0 < d.ratio.2 := Nat.pow_pos (by omega)

/-- Rounding a decimal (`ofDecimal`) gives a number its own mantissa. -/
theorem canonical_ofDecimal (d : Decimal) : Canonical (ofDecimal d) := by
  rw [ofDecimal]
  split_ifs
  · exact canonical_zero _
  · exact .infinite
  · exact canonical_zero _
  · exact canonical_ofRatio _ _ (ratio_pos d)

/-! ## Quotients that are rounded to a number -/

/-- How far the values that are rounded to a number go below it, in units of the last place. -/
def reachBelow (m : Nat) (e : Int) : ℚ :=
  if m = leastNormal ∧ e ≠ leastExponent then 1 / 4 else 1 / 2

/-- Whether a value lies between two others, the ends included if the interval is closed. -/
def Between (low high : ℚ) (closed : Bool) (q : ℚ) : Prop :=
  if closed then low ≤ q ∧ q ≤ high else low < q ∧ q < high

/-- Whether a value lies between the middles of the gaps beside a number; the middles themselves
count if the mantissa is even. -/
def RoundsTo (m : Nat) (e : Int) (q : ℚ) : Prop :=
  Between ((m - reachBelow m e) * 2 ^ e) ((m + 1 / 2) * 2 ^ e) (m % 2 == 0) q

/-- There is some way to the middle below a number (`reachBelow`). -/
theorem reachBelow_pos (m : Nat) (e : Int) : 0 < reachBelow m e := by
  rw [reachBelow]
  split <;> norm_num

/-- It is half a unit at most to the middle below a number. -/
theorem reachBelow_le (m : Nat) (e : Int) : reachBelow m e ≤ 1 / 2 := by
  rw [reachBelow]
  split <;> norm_num

section

variable {m : Nat} {e : Int} {q : ℚ}

/-- A value that is rounded (`RoundsTo`) to a number is at most half a unit from it. -/
theorem RoundsTo.near (h : RoundsTo m e q) :
    (m : ℚ) - 1 / 2 ≤ q / 2 ^ e ∧ q / 2 ^ e ≤ m + 1 / 2 ∧
      (q / 2 ^ e = m - 1 / 2 ∨ q / 2 ^ e = m + 1 / 2 → m % 2 = 0) := by
  have hpos := two_zpow_pos e
  have hreach := reachBelow_le m e
  rw [le_div_iff₀ hpos, div_le_iff₀ hpos, div_eq_iff hpos.ne', div_eq_iff hpos.ne']
  have hbelow : ((m : ℚ) - 1 / 2) * 2 ^ e ≤ (m - reachBelow m e) * 2 ^ e :=
    mul_le_mul_of_nonneg_right (by linarith) hpos.le
  rw [RoundsTo, Between] at h
  -- An even mantissa is reached from the middles themselves, an odd one is not.
  split at h
  · next heven => exact ⟨hbelow.trans h.1, h.2, fun _ => by simpa using heven⟩
  · refine ⟨hbelow.trans h.1.le, h.2.le, ?_⟩
    rintro (heq | heq)
    · exact absurd (heq ▸ h.1) (not_lt.2 hbelow)
    · exact absurd (heq ▸ h.2) (lt_irrefl _)

/-- A quotient below the least number with all its bits and its exponent, if it is rounded
(`RoundsTo`) to the number, needs one more bit at the exponent before. -/
theorem RoundsTo.carry (h : RoundsTo leastNormal e q) (he : e ≠ leastExponent) :
    (mantissaLimit : ℚ) - 1 / 2 ≤ q / 2 ^ (e - 1) := by
  -- Below a power of two the next number is only half a unit away, and so the middle a quarter.
  have hlow : ((leastNormal : ℚ) - 1 / 4) * 2 ^ e ≤ q := by
    rw [RoundsTo, Between, if_pos (by decide), reachBelow, if_pos ⟨rfl, he⟩] at h
    exact h.1
  rw [le_div_iff₀ (two_zpow_pos _)]
  refine hlow.trans_eq' ?_
  have htwo : (2 : ℚ) ^ e = 2 * 2 ^ (e - 1) := by
    rw [← zpow_one_add₀ (by norm_num)]
    congr 1
    ring
  rw [htwo, mantissaLimit_eq, leastNormal_eq]
  norm_num
  ring

section

variable {num den : Nat} (hnum : 0 < num) (hden : 0 < den) (h : RoundsTo m e (num / den))

include hnum hden h

/-- A quotient that is rounded at the exponent of a number (`place`) beside it is rounded to the
number. -/
theorem ofRatio_eq_of_place (negative : Bool) (hplace : place num den = e) (hm : m < mantissaLimit)
    (he : e ≤ greatestExponent) : ofRatio negative num den = .finite negative m e := by
  have hrounded : rounded num den = m := by
    subst hplace
    obtain ⟨hnear, hnear', htie⟩ := h.near
    exact rounded_eq hden hnear hnear' htie
  rw [ofRatio_eq hnum.ne', hrounded, hplace, if_neg (by omega), if_neg (by omega)]

/-- A quotient below the binade of a number beside it is rounded to one bit too many at the exponent
before. -/
theorem ofRatio_eq_of_carry (negative : Bool) (hlt : (num / den : ℚ) < 2 ^ (52 + e))
    (hm : m = leastNormal) (hleast : leastExponent < e) (he : e ≤ greatestExponent) :
    ofRatio negative num den = .finite negative m e := by
  subst hm
  have hcarry := h.carry hleast.ne'
  have hhigh : (num / den : ℚ) < 2 ^ (53 + (e - 1)) := by
    refine hlt.trans_eq ?_
    congr 1
    ring
  have hlow : (2 : ℚ) ^ (52 + (e - 1)) ≤ num / den := by
    rw [two_zpow_add, ← le_div_iff₀ (two_zpow_pos _)]
    refine le_trans ?_ hcarry
    rw [mantissaLimit_eq]
    norm_num
  have hplace : place num den = e - 1 := place_eq hnum hden (.inl hlow) hhigh (by omega)
  -- At the exponent before, the quotient is rounded up to a mantissa that has one bit too many.
  have hrounded : rounded num den = mantissaLimit := by
    rw [two_zpow_add, ← div_lt_iff₀ (two_zpow_pos _), ← mantissaLimit_eq] at hhigh
    rw [← hplace] at hcarry hhigh
    exact rounded_eq hden hcarry (by linarith) fun _ => by decide
  rw [ofRatio_eq hnum.ne', hrounded, hplace, if_pos rfl, if_neg (by omega), sub_add_cancel]

end

/-- A number beside a quotient below its binade has the least mantissa with all bits
(`leastNormal`). -/
theorem RoundsTo.le_leastNormal (h : RoundsTo m e q) (hlt : q < 2 ^ (52 + e)) :
    m ≤ leastNormal := by
  obtain ⟨hnear, -, -⟩ := h.near
  rw [two_zpow_add, ← div_lt_iff₀ (two_zpow_pos e), ← leastNormal_eq] at hlt
  have hle : (m : ℚ) < leastNormal + 1 := by linarith
  exact Nat.lt_succ_iff.1 (by exact_mod_cast hle)

/-- A quotient that lies between the middles beside a number is rounded (`RoundsTo`) to the number.
-/
theorem ofRatio_eq_of_roundsTo {negative : Bool} {num den : Nat} (hnum : 0 < num) (hden : 0 < den)
    (hcanonical : Canonical (.finite negative m e)) (h : RoundsTo m e (num / den)) :
    ofRatio negative num den = .finite negative m e := by
  cases hcanonical with
  | finite hbelow hfull hleast hgreatest =>
    by_cases hlow : (2 : ℚ) ^ (52 + e) ≤ num / den ∨ e = leastExponent
    · have hhigh : (num / den : ℚ) < 2 ^ (53 + e) := by
        obtain ⟨-, hnear, -⟩ := h.near
        have hbelow' : (m : ℚ) + 1 ≤ 2 ^ (53 : ℤ) := by
          rw [← mantissaLimit_eq]
          exact_mod_cast hbelow
        rw [two_zpow_add, ← div_lt_iff₀ (two_zpow_pos e)]
        linarith
      exact ofRatio_eq_of_place hnum hden h negative (place_eq hnum hden hlow hhigh hleast) hbelow
        hgreatest
    · -- the number is a power of two, and the quotient has the exponent before
      obtain ⟨hlow, he⟩ := not_or.1 hlow
      have hlt := not_le.1 hlow
      have hm := le_antisymm (h.le_leastNormal hlt) (hfull.resolve_right he)
      exact ofRatio_eq_of_carry hnum hden h negative hlt hm (lt_of_le_of_ne hleast (Ne.symm he))
        hgreatest

end

end Double

end Parlance.Number
