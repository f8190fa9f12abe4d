import Parlance.Number.Fault

/-!
# The fraction digits of a number pattern

`withFractionDigits?` changes how many digits a number pattern shows after the point. It acts on
every zero that ends a run of digit placeholders, together with the fraction part that follows it;
it knows nothing of quotes.
-/

namespace Parlance.Number

/-- A placeholder of a fraction part. -/
def isFractionPlaceholder (c : Char) : Bool := c == '0' || c == '#'

/-- A character that may not follow the integer digit whose fraction is changed. -/
def continuesNumber (c : Char) : Bool :=
  c.isDigit || c == '#' || c == ',' || c == '.'

/-- Whether what follows a number ends it. -/
def endsNumber : List Char → Bool
  | [] => true
  | c :: _ => !continuesNumber c

/-- What follows a last integer digit and its fraction part, when it is one: a fraction part, which
is a point and at least one placeholder, has to be followed by the end of the number, and so has the
digit if there is none. -/
def afterFraction? (afterZero : List Char) : Option (List Char) :=
  match afterZero with
  | '.' :: rest =>
    let run := rest.takeWhile isFractionPlaceholder
    let after := rest.drop run.length
    if !run.isEmpty && endsNumber after then some after else none
  | rest => if endsNumber rest then some rest else none

/-- The last integer digit with a fraction part of so many digits. -/
def fractionOf (digits : Int) : List Char :=
  if 0 < digits then '0' :: '.' :: List.replicate digits.toNat '0' else ['0']

/-- What follows a fraction part (`afterFraction?`) is no longer than the text. -/
theorem length_afterFraction?_le {s t : List Char} (h : afterFraction? s = some t) :
    t.length ≤ s.length := by
  unfold afterFraction? at h
  -- with a point, the run behind it is dropped too
  split at h
  · simp only at h
    split at h
    · obtain rfl := Option.some.inj h
      simp only [List.length_drop, List.length_cons]
      omega
    · contradiction
  · split at h
    · obtain rfl := Option.some.inj h
      exact Nat.le_refl _
    · contradiction

/-- The characters of a pattern with so many digits after the point of every number. -/
def withFractionDigitsChars (digits : Int) : List Char → List Char
  | [] => []
  | c :: rest =>
    if c = '0' then
      -- a zero that ends an integer part, with the fraction behind it
      match h : afterFraction? rest with
      | some after =>
        have := length_afterFraction?_le h
        fractionOf digits ++ withFractionDigitsChars digits after
      | none => c :: withFractionDigitsChars digits rest
    else c :: withFractionDigitsChars digits rest
termination_by s => s.length

/-- The greatest length that a text can have. -/
def longestText : Int := 0x7FFFFFFFFFFFFFFF

/-- A pattern with so many digits after the point of every number, if a text can have so many.
`fits` says whether there is memory for a text of some length; it is asked for the digits with the
zero and the point before them, and then for the pattern. -/
def withFractionDigits? (fits : Nat → Bool) (pattern : String) (digits : Int) :
    Except NumberFault String :=
  if longestText < digits then .error .unbounded
  else if 0 < digits && !fits (digits.toNat + 2) then .error .oversized
  else
    let edited := withFractionDigitsChars digits pattern.toList
    if fits edited.length then .ok (String.ofList edited) else .error .oversized

end Parlance.Number
