import Mathlib.Data.List.TakeWhile
import Parlance.Proofs.Number.Shortest

/-!
# Floating-point numbers read back

The text of a finite number is a numeral with a point or an exponent, behind a sign if the number is
negative. It is read as the decimal whose digits it shows (`readsBack`), and this decimal is rounded
to the number. So every number that has its own mantissa is read back from its text
(`ofChars?_text`).
-/

namespace Parlance.Number

/-! ## Numerals -/

/-- Digits with a point between them, unless none stands behind it. -/
def pointed (whole fraction : List Char) : List Char :=
  if fraction.isEmpty then whole else whole ++ '.' :: fraction

/-- An exponent with its sign. -/
def signedExponent (minus : Bool) (digits : List Char) : List Char :=
  'e' :: (if minus then '-' else '+') :: digits

/-- Whether characters are all digits. -/
def AreDigits (digits : List Char) : Prop := ∀ c ∈ digits, c.isDigit = true

/-- Whether characters are a numeral with a point or an exponent. -/
inductive IsNumeral : List Char → Prop
  | positional {whole fraction : List Char} (hwhole : AreDigits whole)
      (hfraction : AreDigits fraction) (some : whole ≠ []) (behind : fraction ≠ []) :
      IsNumeral (pointed whole fraction)
  | scientific {whole fraction exponent : List Char} (minus : Bool) (hwhole : AreDigits whole)
      (hfraction : AreDigits fraction) (hexponent : AreDigits exponent) (some : whole ≠ []) :
      IsNumeral (pointed whole fraction ++ signedExponent minus exponent)

/-- No digit is a sign, a point or the letter of an exponent. -/
theorem ne_of_isDigit {c : Char} (h : c.isDigit = true) :
    c ≠ '-' ∧ c ≠ '+' ∧ c ≠ '.' ∧ c ≠ 'e' ∧ c ≠ 'E' := by
  refine ⟨?_, ?_, ?_, ?_, ?_⟩ <;>
  · rintro rfl
    cases h

namespace Decimal

/-- A sign is taken (`takeSign`) off something that begins with a digit. -/
private theorem takeSign_append (negative : Bool) {c : Char} (hc : c.isDigit = true)
    (rest : List Char) :
    takeSign ((if negative then ['-'] else []) ++ c :: rest) = (negative, c :: rest) := by
  obtain ⟨hminus, hplus, -⟩ := ne_of_isDigit hc
  cases negative with
  | true => rfl
  | false =>
    change takeSign (c :: rest) = _
    unfold takeSign
    -- a digit is neither of the signs
    split
    · next heq => exact absurd (List.cons.inj heq).1 hminus
    · next heq => exact absurd (List.cons.inj heq).1 hplus
    · rfl

/-- The exponent that the characters behind the digits of a numeral denote. -/
def exponent? : List Char → Option Int
  | [] => some 0
  | _ :: e =>
    let (minus, digits) := takeSign e
    (ofDigits? digits).map fun n => if minus then -(n : Int) else (n : Int)

/-- How a numeral is read (`ofChars?`): the sign, the digits around the point, and the exponent. -/
private theorem ofChars?_eq (s : List Char) :
    ofChars? s =
      let (negative, s) := takeSign s
      let mantissa := s.takeWhile fun c => c != 'e' && c != 'E'
      let whole := mantissa.takeWhile (· != '.')
      let fraction := (mantissa.drop whole.length).drop 1
      match ofDigits? (whole ++ fraction), exponent? (s.drop mantissa.length) with
      | some n, some e => some ⟨negative, n, e - (fraction.length : Int)⟩
      | _, _ => none := by
  rw [ofChars?]
  rfl

section

variable {whole fraction : List Char} (hwhole : AreDigits whole) (hfraction : AreDigits fraction)

include hwhole hfraction

/-- Digits with a point (`pointed`) are cut at the point. -/
private theorem cut_pointed :
    (pointed whole fraction).takeWhile (· != '.') = whole ∧
      ((pointed whole fraction).drop whole.length).drop 1 = fraction := by
  have hall : ∀ c ∈ whole, (c != '.') = true := fun c hc => by
    simpa using (ne_of_isDigit (hwhole c hc)).2.2.1
  rw [pointed]
  -- without a fraction there is no point
  split
  · next hempty =>
    obtain rfl := List.isEmpty_iff.1 hempty
    rw [List.takeWhile_eq_self_iff.2 hall, List.drop_length]
    exact ⟨rfl, rfl⟩
  · rw [List.takeWhile_append_of_pos hall, List.takeWhile_cons_of_neg (by simp),
      List.drop_left, List.append_nil]
    exact ⟨rfl, rfl⟩

/-- Digits with a point (`pointed`) are what stands before an exponent. -/
theorem takeWhile_mantissa {tail : List Char} (htail : ∀ c ∈ tail.head?, c = 'e') :
    (pointed whole fraction ++ tail).takeWhile (fun c => c != 'e' && c != 'E') =
      pointed whole fraction := by
  have hdigit : ∀ c : Char, c.isDigit = true → (c != 'e' && c != 'E') = true := fun c hc => by
    obtain ⟨-, -, -, he, hE⟩ := ne_of_isDigit hc
    simp [he, hE]
  have hall : ∀ c ∈ pointed whole fraction, (c != 'e' && c != 'E') = true := by
    rw [pointed]
    split
    · exact fun c hc => hdigit c (hwhole c hc)
    · rw [List.forall_mem_append, List.forall_mem_cons]
      exact ⟨fun c hc => hdigit c (hwhole c hc), by decide, fun c hc => hdigit c (hfraction c hc)⟩
  rw [List.takeWhile_append_of_pos hall]
  -- what follows is nothing, or the exponent
  cases tail with
  | nil => simp
  | cons c rest =>
    obtain rfl := htail c rfl
    rw [List.takeWhile_cons_of_neg (by decide), List.append_nil]

/-- A numeral is read as its digits, moved by its exponent (`exponent?`). -/
theorem ofChars?_pointed (hne : whole ≠ []) (negative : Bool) (tail : List Char)
    (htail : ∀ c ∈ tail.head?, c = 'e') {n : Nat} (hn : ofDigits? (whole ++ fraction) = some n)
    {e : Int} (he : exponent? tail = some e) :
    ofChars? ((if negative then ['-'] else []) ++ (pointed whole fraction ++ tail)) =
      some ⟨negative, n, e - (fraction.length : Int)⟩ := by
  have hmantissa := takeWhile_mantissa hwhole hfraction htail
  obtain ⟨hbefore, hbehind⟩ := cut_pointed hwhole hfraction
  -- The numeral begins with a digit, so that only the sign in front of it is taken off.
  obtain ⟨c, digits, hc⟩ : ∃ c digits, pointed whole fraction ++ tail = c :: digits ∧
      c.isDigit = true := by
    obtain ⟨c, rest, rfl⟩ := List.exists_cons_of_ne_nil hne
    rw [pointed]
    split
    · exact ⟨c, _, rfl, hwhole c List.mem_cons_self⟩
    · exact ⟨c, _, rfl, hwhole c List.mem_cons_self⟩
  rw [ofChars?_eq, hc.1, takeSign_append negative hc.2, ← hc.1]
  dsimp only
  rw [hmantissa, List.drop_left, hbefore, hbehind, hn, he]

end

/-- A signed exponent (`signedExponent`) is read as the number with its sign. -/
private theorem exponent?_signedExponent (minus : Bool) {digits : List Char} {k : Nat}
    (hk : ofDigits? digits = some k) :
    exponent? (signedExponent minus digits) = some (if minus then -(k : Int) else k) := by
  rw [signedExponent, exponent?]
  cases minus <;> simp [takeSign, hk]

/-! ## The text of a decimal -/

/-- The digits before and behind the point (`plainDigits`): those of the coefficient, with zeros
where it has too few. -/
theorem plainDigits_spec (d : Decimal) :
    AreDigits d.plainDigits.1 ∧ AreDigits d.plainDigits.2 ∧ d.plainDigits.1 ≠ [] ∧
      (0 ≤ d.exponent → d.plainDigits.2 = [] ∧
        ofDigits? d.plainDigits.1 = some (d.coefficient * tenTo d.exponent.toNat)) ∧
      (d.exponent < 0 → d.plainDigits.2.length = d.fractionDigits ∧
        ofDigits? (d.plainDigits.1 ++ d.plainDigits.2) = some d.coefficient) := by
  rw [plainDigits]
  split
  · next hexponent =>
    exact ⟨fun c hc => isDigit_of_mem_decimalDigits hc, nofun, decimalDigits_ne_nil _,
      fun _ => ⟨rfl, ofDigits?_decimalDigits _⟩, fun hlt => absurd hexponent hlt.not_ge⟩
  · next hexponent =>
    -- the zeros in front leave a digit before the point
    have hlength : d.fractionDigits + 1 ≤
        (paddedDecimal (d.fractionDigits + 1) d.coefficient).length := by
      rw [paddedDecimal, List.length_append, List.length_replicate]
      omega
    have hdigits : AreDigits (paddedDecimal (d.fractionDigits + 1) d.coefficient) :=
      fun c hc => isDigit_of_mem_paddedDecimal hc
    rw [placed]
    refine ⟨fun c hc => hdigits c (List.mem_of_mem_take hc),
      fun c hc => hdigits c (List.mem_of_mem_drop hc), fun hnil => ?_,
      fun hle => absurd hle hexponent, fun _ => ⟨?_, ?_⟩⟩
    · have hzero := congrArg List.length hnil
      rw [List.length_take, List.length_nil] at hzero
      omega
    · rw [List.length_drop]
      omega
    · rw [List.take_append_drop, ofDigits?_paddedDecimal]

end Decimal

namespace Double

open Decimal

/-- The decimal that the text of a decimal is read as. -/
def shown (d : Decimal) : Decimal :=
  if 0 ≤ d.exponent && d.adjusted < 16 then d.roundTo (-1) else d

/-- The numeral of a decimal, without its sign. -/
def numeralOf (d : Decimal) : List Char :=
  if -4 ≤ d.adjusted && d.adjusted < 16 then
    pointed d.plainDigits.1 (if d.plainDigits.2.isEmpty then ['0'] else d.plainDigits.2)
  else
    match decimalDigits d.coefficient with
    | [] => []
    | first :: rest =>
      pointed [first] rest ++ signedExponent (d.adjusted < 0) (paddedDecimal 2 d.adjusted.natAbs)

/-- The text of a decimal (`floatText`) is its sign and its numeral. -/
theorem toList_floatText (d : Decimal) :
    (floatText d).toList = (if d.negative then ['-'] else []) ++ numeralOf d := by
  -- there is a digit on either side of the point
  have hpoint : ∀ digits : List Char,
      (if digits.isEmpty then ['0'] else digits).isEmpty = false := by
    intro digits
    cases digits <;> rfl
  rw [floatText, String.toList_ofList, numeralOf]
  congr 1
  split
  · rw [pointed, hpoint]
    rfl
  · cases hdigits : decimalDigits d.coefficient with
    | nil => rfl
    | cons first rest =>
      cases rest <;> by_cases hminus : d.adjusted < 0 <;>
        simp [pointed, signedExponent, List.isEmpty, hminus]

/-- Whether a decimal has a numeral that is read, with the sign, as the decimal that it shows. -/
def ReadsBack (d : Decimal) : Prop :=
  IsNumeral (numeralOf d) ∧
    Decimal.ofChars? ((if d.negative then ['-'] else []) ++ numeralOf d) = some (shown d)

section

variable {d : Decimal}

/-- What is shown (`shown`) of a whole number that is not too large has a zero behind the point. -/
theorem shown_whole (hexponent : 0 ≤ d.exponent) (hsize : d.adjusted < 16) :
    shown d = ⟨d.negative, d.coefficient * tenTo d.exponent.toNat * 10, -1⟩ := by
  have hdropped : (-1 - d.exponent).toNat = 0 := by omega
  have hplaces : (d.exponent - -1).toNat = d.exponent.toNat + 1 := by omega
  rw [shown, if_pos (by simp [hexponent, hsize]), roundTo, hdropped, hplaces,
    if_pos (by omega : (-1 : Int) ≤ d.exponent), tenTo_succ, ← Nat.mul_assoc]
  split
  · next hcoefficient =>
    obtain hcoefficient : d.coefficient = 0 := by simpa using hcoefficient
    rw [hcoefficient, Nat.zero_mul, Nat.zero_mul]
  · rfl

/-- A whole number that is not too large has a zero behind the point (`ReadsBack`). -/
theorem readsBack_whole (hsize : -4 ≤ d.adjusted ∧ d.adjusted < 16) (hexponent : 0 ≤ d.exponent) :
    ReadsBack d := by
  obtain ⟨hwhole, -, hne, hnatural, -⟩ := d.plainDigits_spec
  obtain ⟨hnone, hdigits⟩ := hnatural hexponent
  have hnumeral : numeralOf d = pointed d.plainDigits.1 ['0'] := by
    rw [numeralOf, if_pos (by simpa using hsize), hnone]
    rfl
  have hzero : AreDigits ['0'] := by
    intro c hc
    rw [List.mem_singleton.1 hc]
    rfl
  -- The zero behind the point makes the number ten times as large and its exponent one less.
  have hread := ofChars?_pointed hwhole hzero hne d.negative [] (by simp)
    (ofDigits?_append_zero hdigits) rfl
  rw [List.append_nil] at hread
  rw [ReadsBack, hnumeral, shown_whole hexponent hsize.2]
  exact ⟨.positional hwhole hzero hne (by simp), hread⟩

/-- A broken number that is not too small is shown with its digits behind the point. -/
theorem readsBack_broken (hsize : -4 ≤ d.adjusted ∧ d.adjusted < 16) (hexponent : d.exponent < 0) :
    ReadsBack d := by
  obtain ⟨hwhole, hfraction, hne, -, hbroken⟩ := d.plainDigits_spec
  obtain ⟨hlength, hdigits⟩ := hbroken hexponent
  have hsome : d.plainDigits.2 ≠ [] := by
    intro hnil
    rw [hnil, fractionDigits, List.length_nil] at hlength
    omega
  have hnumeral : numeralOf d = pointed d.plainDigits.1 d.plainDigits.2 := by
    rw [numeralOf, if_pos (by simpa using hsize), if_neg (by simpa using hsome)]
  have hshown : shown d = d := if_neg (by simp [hexponent])
  have hread := ofChars?_pointed hwhole hfraction hne d.negative [] (by simp) hdigits rfl
  -- As many digits stand behind the point as the exponent asks for.
  have hplaces : 0 - (d.plainDigits.2.length : Int) = d.exponent := by
    rw [hlength, fractionDigits]
    omega
  rw [List.append_nil, hplaces] at hread
  rw [ReadsBack, hnumeral, hshown]
  exact ⟨.positional hwhole hfraction hne hsome, hread⟩

/-- A very large or very small number is shown with an exponent. -/
theorem readsBack_scientific (hsize : ¬ (-4 ≤ d.adjusted ∧ d.adjusted < 16)) : ReadsBack d := by
  obtain ⟨first, rest, hdigits⟩ := List.exists_cons_of_ne_nil (decimalDigits_ne_nil d.coefficient)
  have hall : AreDigits (first :: rest) := hdigits ▸ fun c hc => isDigit_of_mem_decimalDigits hc
  obtain ⟨hfirst, hrest⟩ := List.forall_mem_cons.1 hall
  have hwhole : AreDigits [first] := by simpa [AreDigits] using hfirst
  have hnumeral : numeralOf d =
      pointed [first] rest ++
        signedExponent (d.adjusted < 0) (paddedDecimal 2 d.adjusted.natAbs) := by
    rw [numeralOf, if_neg (by simpa using hsize), hdigits]
  have hcount : (digitCount d.coefficient : Int) = rest.length + 1 := by
    rw [digitCount, hdigits]
    rfl
  have hshown : shown d = d := by
    refine if_neg ?_
    simp only [Bool.and_eq_true, decide_eq_true_eq, not_and]
    intro hexponent hlt
    refine hsize ⟨?_, hlt⟩
    rw [adjusted]
    omega
  have hcoefficient : ofDigits? ([first] ++ rest) = some d.coefficient := by
    rw [List.singleton_append, ← hdigits]
    exact ofDigits?_decimalDigits _
  have hread := ofChars?_pointed hwhole hrest (by simp) d.negative
    (signedExponent (d.adjusted < 0) (paddedDecimal 2 d.adjusted.natAbs))
    (by simp [signedExponent]) hcoefficient
    (exponent?_signedExponent _ (ofDigits?_paddedDecimal 2 d.adjusted.natAbs))
  -- The exponent counts from behind the first digit, so the digits of the fraction are taken off
  -- it.
  have hexponent :
      (if decide (d.adjusted < 0) then -(d.adjusted.natAbs : Int) else d.adjusted.natAbs) -
        (rest.length : Int) = d.exponent := by
    rw [adjusted, hcount]
    simp only [decide_eq_true_eq]
    split <;> omega
  rw [hexponent] at hread
  rw [ReadsBack, hnumeral, hshown]
  exact ⟨.scientific _ hwhole hrest (fun c hc => isDigit_of_mem_paddedDecimal hc) (by simp), hread⟩

end

/-- Every decimal is read back (`ReadsBack`) from its text. -/
theorem readsBack (d : Decimal) : ReadsBack d := by
  by_cases hsize : -4 ≤ d.adjusted ∧ d.adjusted < 16
  · rcases le_or_gt 0 d.exponent with hexponent | hexponent
    · exact readsBack_whole hsize hexponent
    · exact readsBack_broken hsize hexponent
  · exact readsBack_scientific hsize

/-! ## Numbers -/

/-- What is shown (`shown`) of a decimal has its sign and value. -/
theorem shown_spec (d : Decimal) :
    (shown d).negative = d.negative ∧ (shown d).magnitude = d.magnitude := by
  by_cases hwhole : 0 ≤ d.exponent ∧ d.adjusted < 16
  · rw [shown_whole hwhole.1 hwhole.2]
    refine ⟨rfl, ?_⟩
    obtain ⟨n, hn⟩ := Int.eq_ofNat_of_zero_le hwhole.1
    rw [magnitude, magnitude, hn, tenTo_eq]
    -- the zeros move from the exponent into the coefficient
    push_cast
    rw [Int.toNat_natCast, zpow_natCast, mul_assoc _ (10 : ℚ)]
    norm_num
  · rw [shown, if_neg (by simpa using hwhole)]
    exact ⟨rfl, rfl⟩

/-- A finite number that has its own mantissa is read back from its text (`Double.text`). -/
theorem ofChars?_text {negative : Bool} {m : Nat} {e : Int}
    (hcanonical : Canonical (.finite negative m e)) :
    Double.ofChars? (Double.finite negative m e).text.toList = some (.finite negative m e) := by
  have hread : Double.ofChars? (Double.finite negative m e).text.toList =
      some (ofDecimal (shown (toDecimal negative m e))) := by
    rw [Double.ofChars?, text, toList_floatText, (readsBack _).2]
    rfl
  rw [hread, toDecimal]
  split
  · next hzero =>
    subst hzero
    cases hcanonical with
    | finite _ hfull _ _ =>
      rw [hfull.resolve_left (by decide), shown_whole le_rfl (by cases negative <;> decide)]
      rfl
  · next hne =>
    obtain ⟨hsign, hvalue⟩ := shown_spec { shortest m e with negative := negative }
    have hrounds : RoundsTo m e (shown { shortest m e with negative := negative }).magnitude := by
      rw [hvalue]
      exact roundsTo_shortest (Nat.pos_of_ne_zero hne) hcanonical
    -- The decimal in the text has the value of the shortest one, which rounds to the number.
    rw [ofDecimal_eq_of_roundsTo (Nat.pos_of_ne_zero hne) (by rwa [hsign]) hrounds, hsign]

/-- The numeral (`numeralOf`) of a decimal does not show its sign. -/
theorem numeralOf_negative (d : Decimal) (negative : Bool) :
    numeralOf { d with negative := negative } = numeralOf d := rfl

/-- Without its sign, the text of a finite number (`numeralOf`) is read as the size of the number.
-/
theorem ofChars?_numeralOf {negative : Bool} {m : Nat} {e : Int}
    (hcanonical : Canonical (.finite negative m e)) :
    Double.ofChars? (numeralOf (toDecimal negative m e)) = some (.finite false m e) := by
  have hunsigned : Canonical (.finite false m e) := by
    obtain ⟨below, full, least, greatest⟩ := hcanonical
    exact .finite below full least greatest
  -- the sign is not part of the numeral
  have hnumeral : numeralOf (toDecimal negative m e) = numeralOf (toDecimal false m e) := by
    rw [toDecimal, toDecimal]
    split
    · exact numeralOf_negative ⟨false, 0, 0⟩ negative
    · rfl
  have hsign : (toDecimal false m e).negative = false := by
    rw [toDecimal]
    split <;> rfl
  have hread := ofChars?_text hunsigned
  rwa [text, toList_floatText, hsign, ← hnumeral] at hread

end Double

end Parlance.Number
