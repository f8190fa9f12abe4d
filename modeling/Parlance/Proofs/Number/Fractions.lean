import Mathlib.Data.List.Basic
import Mathlib.Data.List.TakeWhile
import Parlance.Number.Pattern.Fraction
import Parlance.Text.Pieces

/-!
# Setting the fraction digits of a pattern

`withFractionDigitsChars` edits a pattern from left to right. A pattern may be cut at any character
that is no part of a number, and its pieces edited on their own (`withFractionDigitsChars_append`).
So editing the digits commutes with writing texts in the place of such characters
(`withFractionDigitsChars_flatMap`), with the texts edited as well. Of a number, the fraction part
is what changes (`withFractionDigitsChars_showing`), and in a pattern of several parts that of each
part (`withFractionDigits?_patternOf`).
-/

namespace Parlance.Number

variable {digits : Int}

/-! ## Where a number ends -/

/-- A placeholder of a fraction continues a number (`continuesNumber`). -/
theorem continuesNumber_of_placeholder {c : Char} (h : isFractionPlaceholder c = true) :
    continuesNumber c = true := by
  rw [isFractionPlaceholder, Bool.or_eq_true, beq_iff_eq, beq_iff_eq] at h
  obtain rfl | rfl := h <;> rfl

/-- A number ends (`endsNumber`) before what does not continue it. -/
private theorem endsNumber_eq (s : List Char) : endsNumber s = !s.head?.any continuesNumber := by
  cases s <;> rfl

/-- Where a number ends (`endsNumber`) before what follows, only the text before decides. -/
private theorem endsNumber_append {s t : List Char} (ht : endsNumber t = true) :
    endsNumber (s ++ t) = endsNumber s := by
  cases s with
  | nil => rw [List.nil_append, ht]; rfl
  | cons => rfl

/-- Whatever is no part of a number (`endsNumber`) begins nothing that a number has. -/
private theorem head?_any_of_endsNumber {p : Char → Bool}
    (hp : ∀ c, p c = true → continuesNumber c = true)
    {s : List Char} (h : endsNumber s = true) : s.head?.any p = false := by
  cases s with
  | nil => rfl
  | cons c s =>
    have hc : continuesNumber c = false := by simpa [endsNumber] using h
    exact Bool.eq_false_iff.2 fun hpc => Bool.false_ne_true (hc.symm.trans (hp c hpc))

/-! ## What follows a last integer digit -/

/-- Every text is a run of placeholders (`isFractionPlaceholder`) and what follows it. -/
private theorem exists_run (s : List Char) : ∃ run after, s = run ++ after ∧
    (∀ c ∈ run, isFractionPlaceholder c = true) ∧
    after.head?.any isFractionPlaceholder = false := by
  refine ⟨s.takeWhile isFractionPlaceholder, s.dropWhile isFractionPlaceholder,
    List.takeWhile_append_dropWhile.symm, fun c hc => List.mem_takeWhile_imp hc, ?_⟩
  have hhead := List.head?_dropWhile_not isFractionPlaceholder s
  cases hs : (s.dropWhile isFractionPlaceholder).head? with
  | none => rfl
  | some c => simpa [hs] using hhead

/-- A point is a fraction part (`afterFraction?`) with the placeholders behind it, if there are any.
-/
theorem afterFraction?_point {run after : List Char}
    (hrun : ∀ c ∈ run, isFractionPlaceholder c = true)
    (hafter : after.head?.any isFractionPlaceholder = false) :
    afterFraction? ('.' :: (run ++ after)) =
      if run ≠ [] ∧ endsNumber after = true then some after else none := by
  have htake : (run ++ after).takeWhile isFractionPlaceholder = run := by
    rw [List.takeWhile_append_of_pos hrun]
    cases after with
    | nil => simp
    | cons c after => rw [List.takeWhile_cons_of_neg (by simpa using hafter), List.append_nil]
  simp only [afterFraction?, htake, List.drop_left]
  cases run <;> simp

/-- Without a point there is no fraction part. -/
theorem afterFraction?_pointless {s : List Char} (h : s.head?.any (· == '.') = false) :
    afterFraction? s = if endsNumber s = true then some s else none := by
  unfold afterFraction?
  split
  · simp at h
  · rfl

/-- What follows is a point with a run of placeholders and the rest, or begins with no point. -/
theorem pointed_or_pointless (s : List Char) :
    (∃ run after, s = '.' :: (run ++ after) ∧ (∀ c ∈ run, isFractionPlaceholder c = true) ∧
      after.head?.any isFractionPlaceholder = false) ∨ s.head?.any (· == '.') = false := by
  cases s with
  | nil => exact .inr rfl
  | cons c s =>
    rcases eq_or_ne c '.' with rfl | hc
    · obtain ⟨run, after, rfl, h⟩ := exists_run s
      exact .inl ⟨run, after, rfl, h⟩
    · exact .inr (by simpa using hc)

/-- The fraction part (`afterFraction?`) is found alike if a number ends before what follows. -/
private theorem afterFraction?_append (s : List Char) {t : List Char} (ht : endsNumber t = true) :
    afterFraction? (s ++ t) = (afterFraction? s).map (· ++ t) := by
  obtain ⟨run, after, rfl, hrun, hafter⟩ | hpointless := pointed_or_pointless s
  · have hafter' : (after ++ t).head?.any isFractionPlaceholder = false := by
      -- what follows is the rest of `s`, or `t` itself, which ends a number
      cases after with
      | nil => exact head?_any_of_endsNumber (fun _ => continuesNumber_of_placeholder) ht
      | cons => exact hafter
    rw [List.cons_append, List.append_assoc, afterFraction?_point hrun hafter',
      afterFraction?_point hrun hafter, endsNumber_append ht]
    split <;> rfl
  · have hpointless' : (s ++ t).head?.any (· == '.') = false := by
      cases s with
      | nil => exact head?_any_of_endsNumber (fun c hc => by rw [eq_of_beq hc]; rfl) ht
      | cons => exact hpointless
    rw [afterFraction?_pointless hpointless', afterFraction?_pointless hpointless,
      endsNumber_append ht]
    split <;> rfl

/-! ## One step of the edit -/

/-- An empty text has nothing to edit (`withFractionDigitsChars`). -/
theorem withFractionDigitsChars_nil : withFractionDigitsChars digits [] = [] := by
  rw [withFractionDigitsChars]

/-- A character that is no zero stays. -/
theorem withFractionDigitsChars_cons {c : Char} (hc : c ≠ '0') (s : List Char) :
    withFractionDigitsChars digits (c :: s) = c :: withFractionDigitsChars digits s := by
  rw [withFractionDigitsChars, if_neg hc]

/-- A zero that ends an integer part gets the fraction part that is asked for (`fractionOf`). -/
theorem withFractionDigitsChars_zero {s after : List Char} (h : afterFraction? s = some after) :
    withFractionDigitsChars digits ('0' :: s) =
      fractionOf digits ++ withFractionDigitsChars digits after := by
  rw [withFractionDigitsChars, if_pos rfl]
  split
  · next h' => rw [Option.some.inj (h.symm.trans h')]
  · next h' => cases h.symm.trans h'

/-- A zero that ends no integer part stays. -/
private theorem withFractionDigitsChars_zero_of_none {s : List Char} (h : afterFraction? s = none) :
    withFractionDigitsChars digits ('0' :: s) = '0' :: withFractionDigitsChars digits s := by
  rw [withFractionDigitsChars, if_pos rfl]
  split
  · next h' => cases h.symm.trans h'
  · rfl

/-- The characters of a fraction part continue a number (`continuesNumber`). -/
theorem continuesNumber_of_mem_fractionOf {c : Char} (h : c ∈ fractionOf digits) :
    continuesNumber c = true := by
  -- a fraction consists of zeros and its point
  have : c = '0' ∨ c = '.' := by
    unfold fractionOf at h
    split at h
    · obtain rfl | rfl | h : c = '0' ∨ c = '.' ∨ c ∈ List.replicate digits.toNat '0' := by
        simpa only [List.mem_cons] using h
      · exact .inl rfl
      · exact .inr rfl
      · exact .inl (List.eq_of_mem_replicate h)
    · exact .inl (List.mem_singleton.1 h)
  obtain rfl | rfl := this <;> rfl

/-! ## Texts that stay as they are -/

/-- Whether some zero of a text ends an integer part. -/
def HasNumber : List Char → Prop
  | [] => False
  | c :: s => (c = '0' ∧ (afterFraction? s).isSome = true) ∨ HasNumber s

/-- A text with a number (`HasNumber`) has a zero. -/
private theorem hasNumber_of_mem {s : List Char} (h : HasNumber s) : '0' ∈ s := by
  induction s with
  | nil => exact h.elim
  | cons c s ih =>
    obtain ⟨rfl, -⟩ | h := h
    · exact List.mem_cons_self
    · exact List.mem_cons_of_mem c (ih h)

/-- A text without a number (`HasNumber`) stays as it is. -/
theorem withFractionDigitsChars_of_not_hasNumber {s : List Char} (h : ¬HasNumber s) :
    withFractionDigitsChars digits s = s := by
  fun_induction withFractionDigitsChars digits s with
  | case1 => rfl
  | case2 rest after hafter => exact absurd (.inl ⟨rfl, by rw [hafter]; rfl⟩) h
  | case3 rest _ ih | case4 c rest _ ih => rw [ih fun hrest => h (.inr hrest)]

/-- A text without a zero stays as it is. -/
theorem withFractionDigitsChars_of_notMem {s : List Char} (h : '0' ∉ s) :
    withFractionDigitsChars digits s = s :=
  withFractionDigitsChars_of_not_hasNumber fun hnumber => h (hasNumber_of_mem hnumber)

/-- A text with one fraction digit (`withFractionDigitsChars`) is no shorter than without. -/
theorem length_withFractionDigitsChars_le (s : List Char) :
    (withFractionDigitsChars 0 s).length ≤ (withFractionDigitsChars 1 s).length := by
  fun_induction withFractionDigitsChars 0 s with
  | case1 => exact Nat.zero_le _
  | case2 rest after hafter _ ih =>
    rw [withFractionDigitsChars_zero hafter, List.length_append, List.length_append]
    -- no fraction is shorter than one digit and its point
    exact Nat.add_le_add (by decide) ih
  | case3 rest hnone ih =>
    rw [withFractionDigitsChars_zero_of_none hnone]
    exact Nat.succ_le_succ ih
  | case4 c rest hc ih =>
    rw [withFractionDigitsChars_cons hc]
    exact Nat.succ_le_succ ih

/-- A text that is the same without a fraction digit and with one has no number (`HasNumber`). -/
theorem not_hasNumber_of_eq {s : List Char}
    (h : withFractionDigitsChars 0 s = withFractionDigitsChars 1 s) : ¬HasNumber s := by
  induction s with
  | nil => exact id
  | cons c s ih =>
    by_cases hends : c = '0' ∧ (afterFraction? s).isSome = true
    · obtain ⟨rfl, hsome⟩ := hends
      obtain ⟨after, hafter⟩ := Option.isSome_iff_exists.1 hsome
      rw [withFractionDigitsChars_zero hafter, withFractionDigitsChars_zero hafter] at h
      -- One fraction digit makes this number two characters longer, and nothing behind it makes up
      -- for that.
      have hlength := congrArg List.length h
      rw [List.length_append, List.length_append, show (fractionOf 0).length = 1 from rfl,
        show (fractionOf 1).length = 3 from rfl] at hlength
      have := length_withFractionDigitsChars_le after
      omega
    · have htail : withFractionDigitsChars 0 s = withFractionDigitsChars 1 s := by
        rcases eq_or_ne c '0' with rfl | hc
        · have hnone : afterFraction? s = none := by simpa using hends
          rw [withFractionDigitsChars_zero_of_none hnone,
            withFractionDigitsChars_zero_of_none hnone] at h
          exact (List.cons.inj h).2
        · rw [withFractionDigitsChars_cons hc, withFractionDigitsChars_cons hc] at h
          exact (List.cons.inj h).2
      exact fun hnumber => hnumber.elim hends (ih htail)

/-! ## Pieces of a pattern -/

/-- What stands before a character that is no part of a number is edited on its own. -/
theorem withFractionDigitsChars_append (s : List Char) {t : List Char} (ht : endsNumber t = true) :
    withFractionDigitsChars digits (s ++ t) =
      withFractionDigitsChars digits s ++ withFractionDigitsChars digits t := by
  fun_induction withFractionDigitsChars digits s with
  | case1 => rw [List.nil_append, List.nil_append]
  -- The zero ends its integer part in the text alone if and only if it does with what follows.
  | case2 rest after hafter _ ih =>
    have : afterFraction? (rest ++ t) = some (after ++ t) := by
      rw [afterFraction?_append rest ht, hafter, Option.map_some]
    rw [List.cons_append, withFractionDigitsChars_zero this, ih, List.append_assoc]
  | case3 rest hnone ih =>
    have : afterFraction? (rest ++ t) = none := by
      rw [afterFraction?_append rest ht, hnone, Option.map_none]
    rw [List.cons_append, withFractionDigitsChars_zero_of_none this, ih, List.cons_append]
  | case4 c rest hc ih =>
    rw [List.cons_append, withFractionDigitsChars_cons hc, ih, List.cons_append]

/-- So is what stands behind such a character (`continuesNumber`). -/
theorem withFractionDigitsChars_append_cons (s : List Char) {c : Char}
    (hc : continuesNumber c = false) (t : List Char) :
    withFractionDigitsChars digits (s ++ c :: t) =
      withFractionDigitsChars digits s ++ c :: withFractionDigitsChars digits t := by
  have hzero : c ≠ '0' := by
    rintro rfl
    cases hc
  rw [withFractionDigitsChars_append s (by rw [endsNumber, hc]; rfl),
    withFractionDigitsChars_cons hzero]

/-! ## Texts in the place of characters -/

/-- A replacement of characters by texts that leaves numbers alone: what it writes for a character
that is no part of a number neither begins nor ends with a part of one. -/
structure KeepsNumbers (f : Char → List Char) : Prop where
  number : ∀ c, continuesNumber c = true → f c = [c]
  first : ∀ c, continuesNumber c = false → ∃ a text, f c = a :: text ∧ continuesNumber a = false
  last : ∀ c, continuesNumber c = false → ∃ text b, f c = text ++ [b] ∧ continuesNumber b = false

/-- Writing every character for itself changes nothing. -/
theorem flatMap_eq_self {f : Char → List Char} {s : List Char} (h : ∀ c ∈ s, f c = [c]) :
    s.flatMap f = s := by
  rw [List.flatMap_congr h, List.flatMap_singleton']

namespace KeepsNumbers

variable {f : Char → List Char} (hf : KeepsNumbers f)

include hf

/-- A text begins with a part of a number if and only if it did so before. -/
theorem head?_any_flatMap {p : Char → Bool} (hp : ∀ c, p c = true → continuesNumber c = true)
    (s : List Char) : (s.flatMap f).head?.any p = s.head?.any p := by
  cases s with
  | nil => rfl
  | cons c s =>
    rw [List.flatMap_cons]
    cases hc : continuesNumber c with
    | true => rw [hf.number c hc]; rfl
    | false =>
      -- What is written for any other character begins with one that continues no number.
      obtain ⟨a, text, ha, hnumber⟩ := hf.first c hc
      have hnot : ∀ b, continuesNumber b = false → p b = false := fun b hb =>
        Bool.eq_false_iff.2 fun hpb => Bool.false_ne_true (hb.symm.trans (hp b hpb))
      rw [ha]
      exact (hnot a hnumber).trans (hnot c hc).symm

/-- A number ends (`endsNumber`) before a text with others in the place of characters where it did
before. -/
theorem endsNumber_flatMap (s : List Char) : endsNumber (s.flatMap f) = endsNumber s := by
  rw [endsNumber_eq, endsNumber_eq, hf.head?_any_flatMap fun _ => id]

/-- The fraction part is found alike in a text with others in the place of characters. -/
theorem afterFraction?_flatMap (s : List Char) :
    afterFraction? (s.flatMap f) = (afterFraction? s).map (List.flatMap f) := by
  obtain ⟨run, after, rfl, hrun, hafter⟩ | hpointless := pointed_or_pointless s
  · -- The point and its placeholders are written for themselves.
    have hself : ('.' :: run).flatMap f = '.' :: run :=
      flatMap_eq_self (List.forall_mem_cons.2
        ⟨hf.number _ rfl, fun c hc => hf.number c (continuesNumber_of_placeholder (hrun c hc))⟩)
    have hafter' : (after.flatMap f).head?.any isFractionPlaceholder = false := by
      rw [hf.head?_any_flatMap fun _ => continuesNumber_of_placeholder, hafter]
    rw [← List.cons_append, List.flatMap_append, hself, List.cons_append, List.cons_append,
      afterFraction?_point hrun hafter', afterFraction?_point hrun hafter, hf.endsNumber_flatMap]
    split <;> rfl
  · have hpointless' : (s.flatMap f).head?.any (· == '.') = false := by
      rw [hf.head?_any_flatMap fun c hc => by rw [eq_of_beq hc]; rfl, hpointless]
    rw [afterFraction?_pointless hpointless', afterFraction?_pointless hpointless,
      hf.endsNumber_flatMap]
    split <;> rfl

/-- A text in the place of a character is edited on its own. -/
theorem withFractionDigitsChars_append {c : Char} (hc : continuesNumber c = false)
    (t : List Char) : withFractionDigitsChars digits (f c ++ t) =
      withFractionDigitsChars digits (f c) ++ withFractionDigitsChars digits t := by
  obtain ⟨text, b, hb, hnumber⟩ := hf.last c hc
  rw [hb, List.append_assoc, List.singleton_append,
    withFractionDigitsChars_append_cons text hnumber,
    withFractionDigitsChars_append_cons text hnumber, withFractionDigitsChars_nil,
    List.append_assoc, List.singleton_append]

end KeepsNumbers

/-- Setting the digits after texts were written in the place of characters: it comes to the same to
set them before, both in the pattern and in the texts. -/
theorem withFractionDigitsChars_flatMap {f g : Char → List Char} (hf : KeepsNumbers f)
    (hnumber : ∀ c, continuesNumber c = true → g c = [c])
    (hother : ∀ c, continuesNumber c = false → g c = withFractionDigitsChars digits (f c))
    (s : List Char) :
    withFractionDigitsChars digits (s.flatMap f) =
      (withFractionDigitsChars digits s).flatMap g := by
  have hfzero : f '0' = ['0'] := hf.number '0' rfl
  have hgzero : g '0' = ['0'] := hnumber '0' rfl
  fun_induction withFractionDigitsChars digits s with
  | case1 => exact withFractionDigitsChars_nil
  | case2 rest after hafter _ ih =>
    -- The new fraction part consists of characters of numbers, which `g` leaves alone.
    have hfraction : (fractionOf digits).flatMap g = fractionOf digits :=
      flatMap_eq_self fun c hc => hnumber c (continuesNumber_of_mem_fractionOf hc)
    have : afterFraction? (rest.flatMap f) = some (after.flatMap f) := by
      rw [hf.afterFraction?_flatMap, hafter, Option.map_some]
    rw [List.flatMap_cons, hfzero, List.singleton_append, withFractionDigitsChars_zero this, ih,
      List.flatMap_append, hfraction]
  | case3 rest hnone ih =>
    have : afterFraction? (rest.flatMap f) = none := by
      rw [hf.afterFraction?_flatMap, hnone, Option.map_none]
    rw [List.flatMap_cons, hfzero, List.singleton_append, withFractionDigitsChars_zero_of_none this,
      ih, List.flatMap_cons, hgzero, List.singleton_append]
  | case4 c rest hzero ih =>
    rw [List.flatMap_cons, List.flatMap_cons]
    cases hc : continuesNumber c with
    | true =>
      rw [hf.number c hc, hnumber c hc, List.singleton_append, List.singleton_append,
        withFractionDigitsChars_cons hzero, ih]
    | false => rw [hf.withFractionDigitsChars_append hc, hother c hc, ih]

/-! ## Numbers -/

/-- The point and the placeholders of a fraction part, if there are any. -/
def fractionPart (fraction : List Char) : List Char :=
  if fraction.isEmpty then [] else '.' :: fraction

/-- A number of a pattern: placeholders of integer digits up to the last one, and the placeholders
of its fraction. -/
def showing (leading fraction : List Char) : List Char := leading ++ '0' :: fractionPart fraction

/-- Whether a character is a placeholder of an integer digit or stands between two of them. -/
def IsLeading (c : Char) : Prop := c = '0' ∨ c = '#' ∨ c = ','

instance decidableIsLeading (c : Char) : Decidable (IsLeading c) :=
  inferInstanceAs (Decidable (_ ∨ _ ∨ _))

/-- A fraction (`fractionOf`) part shows so many zeros behind the point. -/
private theorem fractionOf_eq_showing (digits : Int) :
    fractionOf digits = showing [] (List.replicate digits.toNat '0') := by
  unfold fractionOf showing fractionPart
  split
  · next h => simp [show digits.toNat ≠ 0 by omega]
  · next h => simp [show digits.toNat = 0 by omega]

/-- A zero inside of a number (`IsLeading`) does not end its integer part. -/
theorem withFractionDigitsChars_leading {leading : List Char} (h : ∀ c ∈ leading, IsLeading c)
    (rest : List Char) : withFractionDigitsChars digits (leading ++ '0' :: rest) =
      leading ++ withFractionDigitsChars digits ('0' :: rest) := by
  induction leading with
  | nil => rfl
  | cons c leading ih =>
    obtain ⟨hc, hleading⟩ := List.forall_mem_cons.1 h
    -- What follows is a character of the number, but no point.
    have hnone : afterFraction? (leading ++ '0' :: rest) = none := by
      cases leading with
      | nil => rw [List.nil_append, afterFraction?_pointless rfl]; rfl
      | cons a leading =>
        obtain rfl | rfl | rfl := hleading a List.mem_cons_self <;>
        · rw [List.cons_append, afterFraction?_pointless rfl]
          rfl
    rw [List.cons_append, List.cons_append, ← ih hleading]
    rcases eq_or_ne c '0' with rfl | hzero
    · exact withFractionDigitsChars_zero_of_none hnone
    · exact withFractionDigitsChars_cons hzero _

/-- Of a number that ends where the rest begins, the fraction part is what changes (`showing`). -/
theorem withFractionDigitsChars_showing {leading fraction rest : List Char}
    (hleading : ∀ c ∈ leading, IsLeading c)
    (hfraction : ∀ c ∈ fraction, isFractionPlaceholder c = true) (hrest : endsNumber rest = true) :
    withFractionDigitsChars digits (showing leading fraction ++ rest) =
      showing leading (List.replicate digits.toNat '0') ++ withFractionDigitsChars digits rest := by
  -- What stands behind the zero is the fraction part, which ends where the rest begins.
  have hafter : afterFraction? (fractionPart fraction ++ rest) = some rest := by
    cases fraction with
    | nil =>
      rw [show fractionPart [] = [] from rfl, List.nil_append, afterFraction?_pointless
        (head?_any_of_endsNumber (fun c hc => by rw [eq_of_beq hc]; rfl) hrest), if_pos hrest]
    | cons c fraction =>
      exact (afterFraction?_point hfraction (head?_any_of_endsNumber
        (fun _ => continuesNumber_of_placeholder) hrest)).trans
          (if_pos ⟨List.cons_ne_nil _ _, hrest⟩)
  rw [showing, List.append_assoc, List.cons_append, withFractionDigitsChars_leading hleading,
    withFractionDigitsChars_zero hafter, fractionOf_eq_showing, ← List.append_assoc]
  rfl

/-! ## Patterns of several parts -/

/-- A text without a zero stays as it is, whatever follows it. -/
private theorem withFractionDigitsChars_append_of_notMem {s : List Char} (h : '0' ∉ s)
    (rest : List Char) :
    withFractionDigitsChars digits (s ++ rest) = s ++ withFractionDigitsChars digits rest := by
  induction s with
  | nil => rfl
  | cons c s ih =>
    rw [List.mem_cons, not_or] at h
    rw [List.cons_append, withFractionDigitsChars_cons (Ne.symm h.1), ih h.2, List.cons_append]

/-- What a pattern has between its semicolons: a number between two texts without zeros, the second
of which does not go on with the number. -/
structure Subpattern where
  before : List Char
  leading : List Char
  fraction : List Char
  after : List Char
  before_zeroless : '0' ∉ before
  isLeading : ∀ c ∈ leading, IsLeading c
  isPlaceholder : ∀ c ∈ fraction, isFractionPlaceholder c = true
  after_zeroless : '0' ∉ after
  after_ends : endsNumber after = true

namespace Subpattern

/-- The characters of a part of a pattern. -/
def chars (s : Subpattern) : List Char := s.before ++ (showing s.leading s.fraction ++ s.after)

/-- The part with so many fraction digits, and with none if their number is negative. -/
def setDigits (digits : Int) (s : Subpattern) : Subpattern :=
  { s with
    fraction := List.replicate digits.toNat '0'
    isPlaceholder := fun c hc => by rw [List.eq_of_mem_replicate hc]; rfl }

/-- The characters of parts with semicolons between them. -/
def joined (parts : List Subpattern) : List Char := Text.joinPieces ';' (parts.map chars)

/-- Parts are joined (`joined`) with a semicolon in between. -/
private theorem joined_cons (s : Subpattern) {parts : List Subpattern} (h : parts ≠ []) :
    joined (s :: parts) = s.chars ++ ';' :: joined parts := by
  rw [joined, List.map_cons, Text.joinPieces_cons (List.map_eq_nil_iff.not.2 h), joined]

/-- A part (`Subpattern.chars`) is edited on its own if a number can end behind it. -/
theorem withFractionDigitsChars_chars_append (s : Subpattern) {rest : List Char}
    (hrest : endsNumber rest = true) :
    withFractionDigitsChars digits (s.chars ++ rest) =
      (s.setDigits digits).chars ++ withFractionDigitsChars digits rest := by
  have hends : endsNumber (s.after ++ rest) = true := by
    rw [endsNumber_append hrest, s.after_ends]
  calc withFractionDigitsChars digits (s.chars ++ rest)
      = withFractionDigitsChars digits
          (s.before ++ (showing s.leading s.fraction ++ (s.after ++ rest))) := by
        rw [chars, List.append_assoc, List.append_assoc]
    _ = s.before ++ (showing s.leading (List.replicate digits.toNat '0') ++
          (s.after ++ withFractionDigitsChars digits rest)) := by
        rw [withFractionDigitsChars_append_of_notMem s.before_zeroless,
          withFractionDigitsChars_showing s.isLeading s.isPlaceholder hends,
          withFractionDigitsChars_append_of_notMem s.after_zeroless]
    _ = (s.setDigits digits).chars ++ withFractionDigitsChars digits rest := by
        simp only [chars, setDigits, List.append_assoc]

/-- Of several parts (`joined`) each is edited on its own. -/
theorem withFractionDigitsChars_joined (parts : List Subpattern) :
    withFractionDigitsChars digits (joined parts) = joined (parts.map (setDigits digits)) := by
  induction parts with
  | nil => exact withFractionDigitsChars_nil
  | cons s parts ih =>
    cases parts with
    | nil =>
      -- Behind the last part a number ends with the text, behind any other one at the semicolon.
      have hlast : withFractionDigitsChars digits (s.chars ++ []) =
          (s.setDigits digits).chars ++ withFractionDigitsChars digits [] :=
        s.withFractionDigitsChars_chars_append rfl
      rwa [withFractionDigitsChars_nil, List.append_nil, List.append_nil] at hlast
    | cons next parts =>
      have hmore : (next :: parts).map (setDigits digits) ≠ [] := List.cons_ne_nil _ _
      rw [joined_cons s (List.cons_ne_nil _ _), s.withFractionDigitsChars_chars_append rfl,
        withFractionDigitsChars_cons (by decide), ih]
      exact (joined_cons _ hmore).symm

end Subpattern

open Subpattern

/-- The pattern of some parts, with semicolons between them. -/
def patternOf (parts : List Subpattern) : String := String.ofList (joined parts)

/-- Whether there is memory for so many digits and for the pattern that they are set in. -/
def HasRoom (fits : Nat → Bool) (pattern : String) (digits : Int) : Prop :=
  (0 < digits → fits (digits.toNat + 2) = true) ∧
    fits (withFractionDigitsChars digits pattern.toList).length = true

variable {fits : Nat → Bool}

/-- The pattern with so many digits results if a text can have so many and there is memory for it
(`HasRoom`). -/
theorem withFractionDigits?_eq_ok_iff {pattern edited : String} :
    withFractionDigits? fits pattern digits = .ok edited ↔
      digits ≤ longestText ∧ HasRoom fits pattern digits ∧
        edited.toList = withFractionDigitsChars digits pattern.toList := by
  unfold withFractionDigits? HasRoom
  split
  · next h => exact iff_of_false (by simp) fun hok => absurd hok.1 (by omega)
  · next hlongest =>
    split
    · next h =>
      -- The fraction part alone is too long; it is built first.
      obtain ⟨hpos, hfull⟩ := (Bool.and_eq_true _ _).mp h
      have hnone : ¬ fits (digits.toNat + 2) = true := by simpa using hfull
      exact iff_of_false (by simp) fun hok => hnone (hok.2.1.1 (of_decide_eq_true hpos))
    · next h =>
      have hdigits : 0 < digits → fits (digits.toNat + 2) = true := by simpa using h
      simp only
      split
      · next hedited =>
        rw [Except.ok.injEq]
        exact ⟨fun heq => ⟨by omega, ⟨hdigits, hedited⟩, by rw [← heq, String.toList_ofList]⟩,
          fun hok => by rw [← hok.2.2, String.ofList_toList]⟩
      · next hedited => exact iff_of_false (by simp) fun hok => hedited hok.2.1.2

/-- There is no pattern if no text can have so many digits (`longestText`), or there is no memory
for it. -/
theorem withFractionDigits?_eq_error {pattern : String}
    (h : ¬(digits ≤ longestText ∧ HasRoom fits pattern digits)) :
    withFractionDigits? fits pattern digits =
      .error (if longestText < digits then .unbounded else .oversized) := by
  unfold withFractionDigits?
  split
  · rfl
  · next hlongest =>
    split
    · rfl
    · next hroom =>
      -- there is room for the digits, so it is the edited pattern that does not fit
      have hdigits : 0 < digits → fits (digits.toNat + 2) = true := by simpa using hroom
      have hedited : ¬ fits (withFractionDigitsChars digits pattern.toList).length = true :=
        fun hfits => h ⟨by omega, hdigits, hfits⟩
      simp only
      rw [if_neg hedited]

/-- There is room (`HasRoom`) for digits in an edited pattern if and only if there is in the pattern
itself. -/
theorem hasRoom_setDigits (parts : List Subpattern) (a b : Int) :
    HasRoom fits (patternOf (parts.map (setDigits a))) b ↔ HasRoom fits (patternOf parts) b := by
  have hagain : (parts.map (setDigits a)).map (setDigits b) = parts.map (setDigits b) := by
    rw [List.map_map]
    rfl
  simp only [HasRoom, patternOf, String.toList_ofList, withFractionDigitsChars_joined, hagain]

/-- Setting the digits of a pattern (`patternOf`) edits the fraction of each of its parts and
nothing else, for every number of digits, and digits that were set before do not matter. The edited
pattern is the result if a text can have so many digits and there is memory for it, and there is
none otherwise; so a pattern that results may be edited again, and the digits that are set last
count. -/
theorem withFractionDigits?_patternOf (fits : Nat → Bool) (parts : List Subpattern) :
    (∀ digits, withFractionDigitsChars digits (joined parts) =
      joined (parts.map (setDigits digits))) ∧
    (∀ a b, withFractionDigitsChars b (withFractionDigitsChars a (joined parts)) =
      withFractionDigitsChars b (joined parts)) ∧
    (∀ digits, digits ≤ longestText → HasRoom fits (patternOf parts) digits →
      withFractionDigits? fits (patternOf parts) digits =
        .ok (patternOf (parts.map (setDigits digits)))) ∧
    (∀ digits, ¬(digits ≤ longestText ∧ HasRoom fits (patternOf parts) digits) →
      withFractionDigits? fits (patternOf parts) digits =
        .error (if longestText < digits then .unbounded else .oversized)) ∧
    ∀ a b edited, withFractionDigits? fits (patternOf parts) a = .ok edited →
      withFractionDigits? fits edited b = withFractionDigits? fits (patternOf parts) b := by
  have hresult : ∀ (parts : List Subpattern) (digits : Int), digits ≤ longestText →
      HasRoom fits (patternOf parts) digits → withFractionDigits? fits (patternOf parts) digits =
        .ok (patternOf (parts.map (setDigits digits))) := fun parts digits hlongest hroom =>
    withFractionDigits?_eq_ok_iff.2 ⟨hlongest, hroom, by
      simp only [patternOf, String.toList_ofList, withFractionDigitsChars_joined]⟩
  have hagain : ∀ a b : Int, (parts.map (setDigits a)).map (setDigits b) =
      parts.map (setDigits b) := fun a b => by
    rw [List.map_map]
    rfl
  refine ⟨fun digits => withFractionDigitsChars_joined parts, fun a b => ?_, hresult parts,
    fun digits h => withFractionDigits?_eq_error h, fun a b edited hedited => ?_⟩
  · rw [withFractionDigitsChars_joined, withFractionDigitsChars_joined, hagain,
      withFractionDigitsChars_joined]
  · -- a pattern that results is that of the parts with their digits set
    obtain ⟨hlongest, hroom, -⟩ := withFractionDigits?_eq_ok_iff.1 hedited
    rw [hresult parts a hlongest hroom, Except.ok.injEq] at hedited
    subst hedited
    by_cases hb : b ≤ longestText ∧ HasRoom fits (patternOf parts) b
    · rw [hresult parts b hb.1 hb.2, hresult _ b hb.1 ((hasRoom_setDigits parts a b).2 hb.2),
        hagain]
    · rw [withFractionDigits?_eq_error hb, withFractionDigits?_eq_error
        fun h => hb ⟨h.1, (hasRoom_setDigits parts a b).1 h.2⟩]

/-- A pattern for positive amounts with one for negative amounts in parentheses. -/
def accounting : List Subpattern :=
  [⟨['¤'], ['#', ',', '#', '#'], ['0', '#'], [], by decide, by simp [IsLeading],
      List.all_eq_true.1 rfl, by decide, rfl⟩,
    ⟨['(', '¤'], ['0', '0', ',', '0', '0'], [], [')'], by decide, by simp [IsLeading],
      List.all_eq_true.1 rfl, by decide, rfl⟩]

/-- The fraction of one part is replaced and that of the other is new, and both go again, where
there is memory for a hundred characters. -/
theorem withFractionDigits?_patternOf_accounting :
    patternOf accounting = "¤#,##0.0#;(¤00,000)" ∧
    (3 ≤ longestText ∧ HasRoom (· ≤ 100) (patternOf accounting) 3) ∧
    withFractionDigits? (· ≤ 100) "¤#,##0.0#;(¤00,000)" 3 = .ok "¤#,##0.000;(¤00,000.000)" ∧
    withFractionDigits? (· ≤ 100) "¤#,##0.000;(¤00,000.000)" (-1) = .ok "¤#,##0;(¤00,000)" ∧
    ¬(99 ≤ longestText ∧ HasRoom (· ≤ 100) (patternOf accounting) 99) ∧
    withFractionDigits? (· ≤ 100) "¤#,##0.0#;(¤00,000)" 99 = .error .oversized := by
  have hpattern : patternOf accounting = "¤#,##0.0#;(¤00,000)" := rfl
  obtain ⟨hedit, -, hresult, hnone, hagain⟩ :=
    withFractionDigits?_patternOf (fun n => decide (n ≤ 100)) accounting
  have hroom : HasRoom (· ≤ 100) (patternOf accounting) 3 := by
    refine ⟨fun _ => rfl, ?_⟩
    rw [patternOf, String.toList_ofList, hedit]
    rfl
  have hless : HasRoom (· ≤ 100) (patternOf accounting) (-1) := by
    refine ⟨fun _ => rfl, ?_⟩
    rw [patternOf, String.toList_ofList, hedit]
    rfl
  -- ninety-nine digits and a point are already more than a hundred characters
  have hmore : ¬(99 ≤ longestText ∧ HasRoom (· ≤ 100) (patternOf accounting) 99) :=
    fun h => absurd (h.2.1 (by decide)) (by decide)
  have hfirst := hresult 3 (by decide) hroom
  exact ⟨hpattern, ⟨by decide, hroom⟩, hfirst,
    (hagain 3 (-1) _ hfirst).trans (hresult (-1) (by decide) hless), hmore, hnone 99 hmore⟩

/-- No text has so many digits that their number needs 64 bits, so that there is no pattern, however
much memory there is. -/
theorem no_pattern_of_too_many_digits :
    patternOf accounting = "¤#,##0.0#;(¤00,000)" ∧
    withFractionDigits? (fun _ => true) "¤#,##0.0#;(¤00,000)" 0x8000000000000000 =
      .error .unbounded ∧
    ¬ ∀ digits, withFractionDigits? (fun _ => true) (patternOf accounting) digits =
      .ok (patternOf (accounting.map (setDigits digits))) := by
  have hpattern : patternOf accounting = "¤#,##0.0#;(¤00,000)" := rfl
  have hnone : withFractionDigits? (fun _ => true) "¤#,##0.0#;(¤00,000)" 0x8000000000000000 =
      .error .unbounded := rfl
  refine ⟨hpattern, hnone, fun h => ?_⟩
  have hsome := h 0x8000000000000000
  rw [hpattern, hnone] at hsome
  cases hsome

end Parlance.Number
