import Mathlib.Tactic.FieldSimp
import Parlance.Proofs.Number.Digits
import Parlance.Proofs.Number.Nearest

/-!
# The shortest decimal of a floating-point number

Among the decimals of 17 digits there is always one that is rounded to a given number, for they lie
more closely than the middles of the gaps beside it (`exists_candidate?`). So the search for the
shortest one ends, and what it finds is rounded to the number (`roundsTo_shortest`).
-/

namespace Parlance.Number

/-! ## The size of a decimal -/

/-- Powers of ten are positive. -/
private theorem ten_zpow_pos (e : ℤ) : (0 : ℚ) < 10 ^ e := zpow_pos (by norm_num) e

/-- Powers of ten multiply by adding exponents. -/
private theorem ten_zpow_add (e f : ℤ) : (10 : ℚ) ^ (e + f) = 10 ^ e * 10 ^ f := zpow_add₀
    (by norm_num) e f

/-- The digits of a number (`digitCount`) tell its size up to a factor of ten. -/
theorem digitCount_bounds {n : Nat} (hn : 0 < n) :
    (10 : ℚ) ^ ((Decimal.digitCount n : ℤ) - 1) ≤ n ∧
      (n : ℚ) < 10 ^ (Decimal.digitCount n : ℤ) := by
  have hpos : 0 < Decimal.digitCount n := List.length_pos_iff.2 (decimalDigits_ne_nil n)
  constructor
  · obtain ⟨k, hk⟩ := Nat.exists_eq_succ_of_ne_zero hpos.ne'
    rw [hk, Nat.cast_succ, add_sub_cancel_right, zpow_natCast]
    -- A smaller number would have fewer digits.
    by_contra hlt
    have hshort : n < 10 ^ k := by exact_mod_cast not_le.1 hlt
    cases k with
    | zero => omega
    | succ k =>
      have hle := (Nat.length_toDigits_le_iff (by omega) k.succ_pos).2 hshort
      have hlength : (Nat.toDigits 10 n).length = k + 1 + 1 := hk
      omega
  · rw [zpow_natCast]
    exact_mod_cast (Nat.length_toDigits_le_iff (by omega) hpos).1 le_rfl

/-- All finite numbers of 53 bits are far from this power of ten. -/
theorem two_zpow_lt : (2 : ℚ) ^ (1075 : ℤ) < 10 ^ (400 : ℤ) := by
  have h : 2 ^ 1075 < 10 ^ 400 := by decide +kernel
  exact_mod_cast h

namespace Decimal

/-- The absolute value of a decimal. -/
def magnitude (d : Decimal) : ℚ := d.coefficient * 10 ^ d.exponent

/-- A decimal as a quotient (`Decimal.ratio`) has its size. -/
private theorem ratio_div (d : Decimal) : (d.ratio.1 : ℚ) / d.ratio.2 = d.magnitude := by
  rw [magnitude, zpow_eq_div, ratio, tenTo_eq, tenTo_eq]
  push_cast
  rw [mul_div_assoc]

/-- The adjusted (`adjusted`) exponent of a decimal is that of its first digit. -/
theorem adjusted_bounds {d : Decimal} (h : 0 < d.coefficient) :
    (10 : ℚ) ^ d.adjusted ≤ d.magnitude ∧ d.magnitude < 10 ^ (d.adjusted + 1) := by
  obtain ⟨hlow, hhigh⟩ := digitCount_bounds h
  have hpos := ten_zpow_pos d.exponent
  rw [magnitude, adjusted]
  constructor
  · rw [add_sub_assoc, add_comm, ten_zpow_add]
    exact mul_le_mul_of_nonneg_right hlow hpos.le
  · rw [sub_add_cancel, add_comm, ten_zpow_add]
    exact mul_lt_mul_of_pos_right hhigh hpos

/-- Removing zeros from the end (`stripZeros`) of the coefficient keeps the value. -/
theorem stripZeros_value (fuel : Nat) {n : Nat} (e : ℤ) (hn : 0 < n) :
    ((stripZeros fuel n e).1 : ℚ) * 10 ^ (stripZeros fuel n e).2 = n * 10 ^ e := by
  induction fuel generalizing n e with
  | zero => rfl
  | succ fuel ih =>
    rw [stripZeros]
    split
    · next hzero =>
      simp only [Bool.and_eq_true, bne_iff_ne, beq_iff_eq] at hzero
      -- The zero that is taken off is made up for by the exponent.
      obtain ⟨tenth, rfl⟩ := Nat.dvd_of_mod_eq_zero hzero.2
      rw [Nat.mul_div_cancel_left tenth (by omega), ih (e + 1) (by omega), ten_zpow_add]
      push_cast
      ring
    · rfl

/-- A decimal without zeros at its end (`Decimal.stripped`) has the same size. -/
private theorem magnitude_stripped {d : Decimal} (h : 0 < d.coefficient) :
    d.stripped.magnitude = d.magnitude := by
  rw [stripped, if_neg h.ne']
  exact stripZeros_value (digitCount d.coefficient) d.exponent h

end Decimal

namespace Double

/-! ## Decimals that are rounded to a number -/

/-- All values that are rounded (`RoundsTo`) to a number are far from the powers of ten at which
reading gives up. -/
theorem RoundsTo.bounds {negative : Bool} {m : Nat} {e : Int} {q : ℚ} (h : RoundsTo m e q)
    (hm : 0 < m) (hcanonical : Canonical (.finite negative m e)) :
    (10 : ℚ) ^ (-400 : ℤ) < q ∧ q < 10 ^ (400 : ℤ) := by
  obtain ⟨hlow, hhigh, -⟩ := h.near
  cases hcanonical with
  | finite hbelow hfull hleast hgreatest =>
    have hpos := two_zpow_pos e
    have hm' : (1 : ℚ) ≤ m := by exact_mod_cast hm
    have hbelow' : (m : ℚ) + 1 ≤ 2 ^ (53 : ℤ) := by
      rw [← mantissaLimit_eq]
      exact_mod_cast hbelow
    -- half of the least number and twice the greatest are far inside these powers of ten
    constructor
    · calc (10 : ℚ) ^ (-400 : ℤ) < 2 ^ (-1075 : ℤ) := by
            rw [zpow_neg, zpow_neg]
            exact inv_strictAnti₀ (two_zpow_pos _) two_zpow_lt
        _ ≤ 2 ^ (-1 + e) := by
            refine zpow_le_zpow_right₀ (by norm_num) ?_
            unfold leastExponent at hleast
            omega
        _ ≤ q := by
            rw [two_zpow_add, ← le_div_iff₀ hpos, zpow_neg_one]
            linarith
    · calc q ≤ 2 ^ (53 + e) := by
            rw [two_zpow_add, ← div_le_iff₀ hpos]
            linarith
        _ ≤ 2 ^ (1075 : ℤ) :=
            zpow_le_zpow_right₀ (by norm_num) (by unfold greatestExponent at hgreatest; omega)
        _ < 10 ^ (400 : ℤ) := two_zpow_lt

/-- A decimal that is rounded (`RoundsTo`) to a positive number is not zero. -/
theorem RoundsTo.coefficient_pos {negative : Bool} {d : Decimal} {m : Nat} {e : Int}
    (h : RoundsTo m e d.magnitude) (hm : 0 < m) (hcanonical : Canonical (.finite negative m e)) :
    0 < d.coefficient := by
  have hlarge := (h.bounds hm hcanonical).1
  by_contra hzero
  obtain hzero : d.coefficient = 0 := by omega
  rw [Decimal.magnitude, hzero, Nat.cast_zero, zero_mul] at hlarge
  exact absurd hlarge (ten_zpow_pos _).not_gt

/-- A decimal (`ofDecimal`) between the middles beside a number is read as the number. -/
theorem ofDecimal_eq_of_roundsTo {d : Decimal} {m : Nat} {e : Int} (hm : 0 < m)
    (hcanonical : Canonical (.finite d.negative m e)) (h : RoundsTo m e d.magnitude) :
    ofDecimal d = .finite d.negative m e := by
  have hd := h.coefficient_pos hm hcanonical
  obtain ⟨hlow, hhigh⟩ := h.bounds hm hcanonical
  obtain ⟨hadjusted, hadjusted'⟩ := Decimal.adjusted_bounds hd
  have hle := (zpow_lt_zpow_iff_right₀ (by norm_num)).1 (hadjusted.trans_lt hhigh)
  have hge := (zpow_lt_zpow_iff_right₀ (by norm_num)).1 (hlow.trans hadjusted')
  rw [ofDecimal, if_neg hd.ne', if_neg (by omega), if_neg (by omega)]
  rw [← Decimal.ratio_div] at h
  refine ofRatio_eq_of_roundsTo ?_ (ratio_pos d) hcanonical h
  exact Nat.mul_pos hd (Nat.pow_pos (by omega))

/-! ## Decimals in an interval -/

/-- What lies strictly between (`Between`) the ends lies between them, whether they count or not. -/
private theorem between_of_lt {low high q : ℚ} (closed : Bool) (hlow : low < q) (hhigh : q < high) :
    Between low high closed q := by
  rw [Between]
  split
  · exact ⟨hlow.le, hhigh.le⟩
  · exact ⟨hlow, hhigh⟩

/-- How the search compares a decimal with the ends of the interval (`Between`). -/
theorem inside_iff (low high : Nat) (closed : Bool) {den : Nat} (hden : 0 < den) (grid : Int)
    (c : Nat) :
    (if closed then decide (low * tenTo (-grid).toNat ≤ c * (den * tenTo grid.toNat)) &&
        decide (c * (den * tenTo grid.toNat) ≤ high * tenTo (-grid).toNat)
      else decide (low * tenTo (-grid).toNat < c * (den * tenTo grid.toNat)) &&
        decide (c * (den * tenTo grid.toNat) < high * tenTo (-grid).toNat)) = true ↔
      Between (low / den) (high / den) closed (c * 10 ^ grid) := by
  have hdq : (0 : ℚ) < den := by exact_mod_cast hden
  have hup : (0 : ℚ) < 10 ^ (-grid).toNat := by positivity
  -- Both sides over the common denominator, so that only integers are compared.
  have hvalue : (c * 10 ^ grid : ℚ) =
      (c * (den * tenTo grid.toNat) : Nat) / (den * 10 ^ (-grid).toNat) := by
    rw [zpow_eq_div, tenTo_eq]
    push_cast
    field_simp
  have hend : ∀ n : Nat,
      (n / den : ℚ) = (n * tenTo (-grid).toNat : Nat) / (den * 10 ^ (-grid).toNat) := by
    intro n
    rw [tenTo_eq]
    push_cast
    field_simp
  have hcommon : (0 : ℚ) < den * 10 ^ (-grid).toNat := mul_pos hdq hup
  rw [Between, hvalue, hend low, hend high]
  simp only [div_le_div_iff_of_pos_right hcommon, div_lt_div_iff_of_pos_right hcommon, Nat.cast_le,
    Nat.cast_lt]
  split <;> simp

section

variable {value low high den : Nat} {closed : Bool} {power : Int} {count : Nat}

/-- A decimal that is found (`nearestOfLength`) lies in the interval. -/
theorem between_of_nearestOfLength (hden : 0 < den) {d : Decimal}
    (h : nearestOfLength value low high den closed power count = some d) :
    Between (low / den) (high / den) closed d.magnitude := by
  have hinside := inside_iff low high closed hden (power + 1 - count)
  unfold nearestOfLength at h
  dsimp only at h
  split at h
  · next hbelow _ =>
    cases h
    exact (hinside _).1 hbelow
  · next _ habove =>
    cases h
    exact (hinside _).1 habove
  · cases h
  · next hbelow habove =>
    -- Both lie inside: the nearer one is taken, and of two equally near ones the even one.
    split_ifs at h <;> cases h
    · exact (hinside _).1 hbelow
    · exact (hinside _).1 habove
    · exact (hinside _).1 hbelow
    · exact (hinside _).1 habove

/-- A decimal is found (`nearestOfLength`) if the one below the value or the one above it lies in
the interval. -/
theorem exists_nearestOfLength (hden : 0 < den) {grid : Int} (hgrid : grid = power + 1 - count)
    (hnear : ∀ c : Nat, (c : ℚ) * 10 ^ grid ≤ value / den →
      (value / den : ℚ) < (c + 1) * 10 ^ grid →
      Between (low / den) (high / den) closed (c * 10 ^ grid) ∨
        Between (low / den) (high / den) closed ((c + 1 : Nat) * 10 ^ grid)) :
    ∃ d, nearestOfLength value low high den closed power count = some d := by
  have hinside := inside_iff low high closed hden grid
  subst hgrid
  have hdown : 0 < den * tenTo (power + 1 - count).toNat :=
    Nat.mul_pos hden (Nat.pow_pos (by omega))
  have hdownq : (0 : ℚ) < (den * tenTo (power + 1 - count).toNat : Nat) := by exact_mod_cast hdown
  -- the value in units of the grid, whose integer part is taken
  have hunits : (value * tenTo (-(power + 1 - count)).toNat : Nat) /
      ((den * tenTo (power + 1 - count).toNat : Nat) : ℚ) =
        value / den / 10 ^ (power + 1 - count : ℤ) := by
    rw [zpow_eq_div, tenTo_eq, tenTo_eq]
    push_cast
    field_simp
  set below := value * tenTo (-(power + 1 - count)).toNat / (den * tenTo (power + 1 - count).toNat)
    with hbelow
  have hpos := ten_zpow_pos (power + 1 - count)
  have hlow : (below : ℚ) * 10 ^ (power + 1 - count : ℤ) ≤ value / den := by
    rw [← le_div_iff₀ hpos, ← hunits, le_div_iff₀ hdownq]
    exact_mod_cast Nat.div_mul_le_self _ _
  have hhigh : (value / den : ℚ) < (below + 1) * 10 ^ (power + 1 - count : ℤ) := by
    rw [← div_lt_iff₀ hpos, ← hunits, div_lt_iff₀ hdownq]
    have hlt : _ < _ * (below + 1) :=
      Nat.lt_mul_div_succ (value * tenTo (-(power + 1 - count)).toNat) hdown
    rw [Nat.mul_comm _ (below + 1)] at hlt
    exact_mod_cast hlt
  have hfound := hnear below hlow hhigh
  rw [← hinside, ← hinside] at hfound
  unfold nearestOfLength
  dsimp only
  split
  · exact ⟨_, rfl⟩
  · exact ⟨_, rfl⟩
  · next hno hno' => exact absurd hfound (by rw [hno, hno']; simp)
  · split_ifs <;> exact ⟨_, rfl⟩

end

/-! ## The search -/

/-- The first digit of a quotient (`leadingPower`) is not above it. -/
theorem zpow_leadingPower_le {num den : Nat} (hden : 0 < den) (hsmall : den ≤ num * tenTo 400) :
    (10 : ℚ) ^ leadingPower num den ≤ num / den := by
  have hdq : (0 : ℚ) < den := by exact_mod_cast hden
  rw [leadingPower]
  split
  · next hle =>
    -- A quotient of one or more has the digits of its integer part.
    have hone : 0 < num / den := Nat.div_pos hle hden
    calc (10 : ℚ) ^ ((Decimal.digitCount (num / den) : ℤ) - 1) ≤ (num / den : Nat) :=
          (digitCount_bounds hone).1
      _ ≤ num / den := by
          rw [le_div_iff₀ hdq]
          exact_mod_cast Nat.div_mul_le_self num den
  · split
    · next j hj =>
      have hfound : den ≤ num * tenTo (j + 1) := by simpa using List.find?_some hj
      rw [zpow_neg, le_div_iff₀ hdq, ← Nat.cast_succ, zpow_natCast, inv_mul_le_iff₀ (by positivity),
        mul_comm]
      exact_mod_cast hfound
    · next hnone =>
      have hlast := List.find?_eq_none.1 hnone 399 (by simp)
      exact absurd (decide_eq_true hsmall) hlast

section

variable {negative : Bool} {m : Nat} {e : Int} (hm : 0 < m)
  (hcanonical : Canonical (.finite negative m e))

/-- The middle below a number in quarters of the last place, as the search has it. -/
def lowEnd (m : Nat) (e : Int) : Nat :=
  if m = leastNormal && e != leastExponent then 4 * m - 1 else 4 * m - 2

/-- A quarter of the last place, as numerator and denominator. -/
def quarter (e : Int) : Nat × Nat := ratioOf 1 (e - 2)

/-- The decimal of some number of digits that the search finds. -/
def candidate? (m : Nat) (e : Int) (count : Nat) : Option Decimal :=
  nearestOfLength (4 * m * (quarter e).1) (lowEnd m e * (quarter e).1)
    ((4 * m + 2) * (quarter e).1) (quarter e).2 (m % 2 == 0)
    (leadingPower (4 * m * (quarter e).1) (quarter e).2) count

/-- The shortest (`shortest`) decimal is the first candidate of up to 17 digits, without zeros at
its end. -/
theorem shortest_eq (m : Nat) (e : Int) :
    ∃ other, shortest m e =
      (((List.range 17).findSome? fun k => candidate? m e (k + 1)).getD other).stripped := by
  refine ⟨⟨false, 4 * m * (quarter e).1, 0⟩, ?_⟩
  -- the two cases of the lower end are those of `lowEnd`
  have hlow : ∀ unit, (if m = leastNormal && e != leastExponent then (4 * m - 1) * unit
      else (4 * m - 2) * unit) = lowEnd m e * unit := by
    intro unit
    rw [lowEnd]
    split <;> rfl
  unfold shortest
  dsimp only
  rw [hlow]
  rfl

omit hcanonical in
include hm in
/-- The value and the middles beside it, as the search computes them. -/
theorem ends_eq :
    0 < (quarter e).2 ∧ (4 * m * (quarter e).1 : Nat) / ((quarter e).2 : ℚ) = m * 2 ^ e ∧
      (lowEnd m e * (quarter e).1 : Nat) / ((quarter e).2 : ℚ) = (m - reachBelow m e) * 2 ^ e ∧
      ((4 * m + 2) * (quarter e).1 : Nat) / ((quarter e).2 : ℚ) = (m + 1 / 2) * 2 ^ e := by
  -- one unit is a quarter of the last place
  have hunit : ((quarter e).1 : ℚ) / (quarter e).2 = 2 ^ e / 4 := by
    have hpower : (2 : ℚ) ^ (e - 2) = (quarter e).1 / (quarter e).2 := by
      rw [zpow_eq_div]
      simp [quarter, ratioOf, twoTo_eq]
    rw [← hpower, zpow_sub₀ (by norm_num)]
    norm_num
  refine ⟨Nat.pow_pos (by omega), ?_, ?_, ?_⟩
  · rw [Nat.cast_mul, mul_div_assoc, hunit]
    push_cast
    ring
  · rw [Nat.cast_mul, mul_div_assoc, hunit, lowEnd, reachBelow]
    simp only [Bool.and_eq_true, decide_eq_true_eq, bne_iff_ne]
    split <;>
    · rw [Nat.cast_sub (by omega)]
      push_cast
      ring
  · rw [Nat.cast_mul, mul_div_assoc, hunit]
    push_cast
    ring

omit hcanonical in
include hm in
/-- What the search finds is rounded (`RoundsTo`) to the number. -/
theorem roundsTo_of_candidate? {count : Nat} {d : Decimal} (h : candidate? m e count = some d) :
    RoundsTo m e d.magnitude := by
  obtain ⟨hden, -, hlow, hhigh⟩ := ends_eq (e := e) hm
  rw [candidate?] at h
  have hbetween := between_of_nearestOfLength hden h
  rwa [hlow, hhigh] at hbetween

/-- A value near to a number is rounded (`RoundsTo`) to it. -/
theorem roundsTo_of_near {q : ℚ} (hlow : m * 2 ^ e - reachBelow m e * 2 ^ e < q)
    (hhigh : q < m * 2 ^ e + 1 / 2 * 2 ^ e) : RoundsTo m e q := by
  rw [← sub_mul] at hlow
  rw [← add_mul] at hhigh
  exact between_of_lt _ hlow hhigh

omit hm in
include hcanonical in
/-- With 17 digits, half the distance of two decimals is less than the way from a number to the
middles beside it. -/
theorem half_grid_lt {grid : ℚ} (hgrid : grid * 10 ^ (16 : ℤ) ≤ m * 2 ^ e) :
    grid / 2 < reachBelow m e * 2 ^ e := by
  have hpos := two_zpow_pos e
  cases hcanonical with
  | finite hbelow _ _ _ =>
    rw [reachBelow]
    split
    · next hm =>
      rw [hm.1] at hgrid
      norm_num [leastNormal] at hgrid
      -- With 53 bits a number has fewer than 16 full digits, so 17 are enough.
      linarith
    · have hm : (m : ℚ) * 2 ^ e ≤ mantissaLimit * 2 ^ e :=
        mul_le_mul_of_nonneg_right (by exact_mod_cast hbelow.le) hpos.le
      norm_num [mantissaLimit] at hm hgrid
      linarith

include hm hcanonical in
/-- The search (`candidate?`) finds a decimal of 17 digits at the latest. -/
theorem exists_candidate? : ∃ d, candidate? m e 17 = some d := by
  obtain ⟨hden, hvalue, hlow, hhigh⟩ := ends_eq (e := e) hm
  have hpos := two_zpow_pos e
  have hreach := mul_pos (reachBelow_pos m e) hpos
  have hpower : (10 : ℚ) ^ leadingPower (4 * m * (quarter e).1) (quarter e).2 ≤ m * 2 ^ e := by
    have hself : RoundsTo m e (m * 2 ^ e) := roundsTo_of_near (by linarith) (by linarith)
    have hlarge := (hself.bounds hm hcanonical).1
    have hdenq : (0 : ℚ) < (quarter e).2 := by exact_mod_cast hden
    rw [← hvalue] at hlarge ⊢
    refine zpow_leadingPower_le hden ?_
    rw [zpow_neg, lt_div_iff₀ hdenq, inv_mul_lt_iff₀ (ten_zpow_pos _), mul_comm] at hlarge
    rw [tenTo_eq]
    exact_mod_cast hlarge.le
  rw [candidate?]
  refine exists_nearestOfLength hden rfl fun c hbelow habove => ?_
  rw [hvalue] at hbelow habove
  rw [hlow, hhigh]
  set grid : ℚ :=
    10 ^ (leadingPower (4 * m * (quarter e).1) (quarter e).2 + 1 - (17 : Nat)) with hgrid
  have hhalf : grid / 2 < reachBelow m e * 2 ^ e := by
    refine half_grid_lt hcanonical (hpower.trans_eq' ?_)
    rw [hgrid, ← ten_zpow_add]
    congr 1
    omega
  have hreach' : reachBelow m e * 2 ^ e ≤ 1 / 2 * 2 ^ e :=
    mul_le_mul_of_nonneg_right (reachBelow_le m e) hpos.le
  -- of the two decimals beside the value, the nearer one is within half their distance
  rcases le_or_gt (m * 2 ^ e - c * grid) (grid / 2) with hnear | hfar
  · exact .inl (roundsTo_of_near (by linarith) (by linarith))
  · refine .inr (roundsTo_of_near ?_ ?_) <;> rw [Nat.cast_succ] <;> linarith

include hm hcanonical in
/-- The shortest decimal is rounded (`RoundsTo`) to the number. -/
theorem roundsTo_shortest : RoundsTo m e (shortest m e).magnitude := by
  obtain ⟨other, hshortest⟩ := shortest_eq m e
  obtain ⟨last, hlast⟩ := exists_candidate? hm hcanonical
  obtain ⟨d, hd⟩ : ∃ d, (List.range 17).findSome? (fun k => candidate? m e (k + 1)) = some d := by
    rw [← Option.isSome_iff_exists, List.findSome?_isSome_iff]
    exact ⟨16, by simp, by rw [hlast]; rfl⟩
  -- the first candidate that rounds to the number; zeros at its end do not matter
  obtain ⟨k, -, hk⟩ := List.exists_of_findSome?_eq_some hd
  have hrounds := roundsTo_of_candidate? hm hk
  rw [hshortest, hd, Option.getD_some,
    Decimal.magnitude_stripped (hrounds.coefficient_pos hm hcanonical)]
  exact hrounds

end

end Double

end Parlance.Number
