import Parlance.Text.Case

/-!
# Case mappings and plain characters

A mapping may lead from beyond ASCII into it, as from `ß` to `SS`, but only to letters, and to no
control character (`low_of_mem_upperChar`, `low_of_mem_lowerChar`). So upper and lower case add no
underscore, no quote and no backslash to a text, and take none away (`count_lowerFrom`,
`mem_lowerFrom_of_fixed`).
-/

namespace Parlance.Text

/-! ## Where the tables lead -/

/-- Whether a code point is beyond the control characters that follow ASCII, and one of a character,
or below and of some kind. -/
def landsOn (kind : Char → Bool) (code : Nat) : Bool :=
  if code < 0xA0 then kind (Char.ofNat code) else decide code.isValidChar

/-- Whether all code points that a run maps to do so. Only a run of a single code point leads
below. -/
def CaseRun.landsOn (kind : Char → Bool) (r : CaseRun) : Bool :=
  if r.first = r.last then Text.landsOn kind (Int.ofNat r.first + r.shift).toNat
  else
    0xA0 ≤ Int.ofNat r.first + r.shift &&
      (Int.ofNat r.last + r.shift < 0xD800 ||
        (0xDFFF < Int.ofNat r.first + r.shift && Int.ofNat r.last + r.shift < 0x110000))

/-- A valid code point is that of its character. -/
theorem toNat_ofNat_of_valid {code : Nat} (h : code.isValidChar) :
    (Char.ofNat code).toNat = code := by
  rw [Char.ofNat, dif_pos h]
  rfl

/-- A run of a table that leads to characters of some kind (`CaseRun.landsOn`) does so for each code
point. -/
private theorem landsOn_apply {kind : Char → Bool} {runs : List CaseRun} {code result : Nat}
    (hruns : runs.all (CaseRun.landsOn kind) = true) (h : CaseRun.apply runs code = some result) :
    landsOn kind result = true := by
  obtain ⟨r, hfind, rfl⟩ := Option.map_eq_some_iff.1 h
  have hr := List.all_eq_true.1 hruns r (List.mem_of_find?_eq_some hfind)
  have hcovers := List.find?_some hfind
  simp only [Bool.and_eq_true, decide_eq_true_eq] at hcovers
  obtain ⟨⟨hfirst, hlast⟩, -⟩ := hcovers
  unfold CaseRun.landsOn at hr
  split at hr
  · have heq : code = r.first := by omega
    rwa [heq]
  · -- the whole run stays beyond, on one side of the surrogates
    simp only [Bool.and_eq_true, Bool.or_eq_true, decide_eq_true_eq, Int.ofNat_eq_natCast] at hr
    rw [Int.ofNat_eq_natCast]
    have hbeyond : ¬ ((code : Int) + r.shift).toNat < 0xA0 := by omega
    have hvalid : ((code : Int) + r.shift).toNat.isValidChar := by
      rw [Nat.isValidChar]
      omega
    rw [landsOn, if_neg hbeyond, decide_eq_true_eq]
    exact hvalid

/-- A mapping (`mapBeyondAscii`) whose tables lead below only to characters of some kind does so,
but for characters that it leaves as they are. -/
theorem kind_of_mem_mapBeyondAscii {kind : Char → Bool} {runs : List CaseRun}
    {expansions : List (Nat × List Nat)} (hruns : runs.all (CaseRun.landsOn kind) = true)
    (hexpansions : expansions.all (fun e => e.2.all (landsOn kind)) = true) {c d : Char}
    (h : d ∈ mapBeyondAscii runs expansions c) (hd : d.toNat < 0xA0) : kind d = true ∨ d = c := by
  have hlanded : ∀ code, landsOn kind code = true → d = Char.ofNat code → kind d = true := by
    rintro code hcode rfl
    unfold landsOn at hcode
    split at hcode
    · exact hcode
    · rw [decide_eq_true_eq] at hcode
      rw [toNat_ofNat_of_valid hcode] at hd
      omega
  unfold mapBeyondAscii at h
  split at h
  · next e hfind =>
    obtain ⟨code, hcode, rfl⟩ := List.mem_map.1 h
    have he := List.all_eq_true.1 hexpansions e (List.mem_of_find?_eq_some hfind)
    exact .inl (hlanded code (List.all_eq_true.1 he code hcode) rfl)
  · rw [List.mem_singleton] at h
    -- Outside of every run the character stands for itself.
    cases happly : CaseRun.apply runs c.toNat with
    | some code =>
      rw [happly, Option.getD_some] at h
      exact .inl (hlanded code (landsOn_apply hruns happly) h)
    | none =>
      rw [happly, Option.getD_none, Char.ofNat_toNat] at h
      exact .inr h

/-- A mapping leaves a character as it is if it begins beyond it. -/
theorem mapBeyondAscii_of_lt {runs : List CaseRun} {expansions : List (Nat × List Nat)} {n : Nat}
    (hruns : runs.all (fun r => n ≤ r.first) = true)
    (hexpansions : expansions.all (fun e => n ≤ e.1) = true) {c : Char} (hc : c.toNat < n) :
    mapBeyondAscii runs expansions c = [c] := by
  -- the tables have entries for higher code points only
  have hexpansion : expansions.find? (·.1 == c.toNat) = none := by
    rw [List.find?_eq_none]
    intro e he heq
    have hkey := of_decide_eq_true (List.all_eq_true.1 hexpansions e he)
    rw [beq_iff_eq] at heq
    omega
  have hrun : CaseRun.apply runs c.toNat = none := by
    rw [CaseRun.apply, Option.map_eq_none_iff, List.find?_eq_none]
    intro r hr hcovers
    have hfirst := of_decide_eq_true (List.all_eq_true.1 hruns r hr)
    simp only [Bool.and_eq_true, decide_eq_true_eq] at hcovers
    omega
  rw [mapBeyondAscii, hexpansion, hrun, Option.getD_none, Char.ofNat_toNat]

/-! ## Single characters -/

/-- What holds of all characters with small code points (`Char.ofNat`) holds of each. -/
theorem of_toNat_lt {P : Char → Prop} {n : Nat} (h : ∀ code < n, P (Char.ofNat code)) {c : Char}
    (hc : c.toNat < n) : P c :=
  Char.ofNat_toNat c ▸ h c.toNat hc

/-- Small letters, as core knows them, are ASCII. -/
theorem ascii_of_isLower {c : Char} (h : c.isLower = true) : c.toNat < 128 := by
  have hle : c.val ≤ 'z'.val := of_decide_eq_true (Bool.and_eq_true_iff.1 h).2
  exact Nat.lt_of_le_of_lt (UInt32.le_iff_toNat_le.1 hle) (by decide)

/-- Capitals, as core knows them, are ASCII. -/
private theorem ascii_of_isUpper {c : Char} (h : c.isUpper = true) : c.toNat < 128 := by
  have hrange : 'A'.val ≤ c.val ∧ c.val ≤ 'Z'.val := of_decide_eq_true h
  exact Nat.lt_of_le_of_lt (UInt32.le_iff_toNat_le.1 hrange.2) (by decide)

/-- A character of an upper-case (`upperChar`) form is beyond the control characters that follow
ASCII, a capital, or the character itself, which then is no small letter. -/
theorem low_of_mem_upperChar {c d : Char} (h : d ∈ upperChar c) (hd : d.toNat < 0xA0) :
    d.isUpper = true ∨ d = c ∧ c.isLower = false := by
  unfold upperChar at h
  split at h
  · next hc =>
    rw [List.mem_singleton] at h
    subst h
    refine of_toNat_lt (P := fun c => c.toUpper.isUpper = true ∨
      c.toUpper = c ∧ c.isLower = false) ?_ hc
    decide
  · next hc =>
    -- Beyond ASCII the tables decide: no entry leads below to anything but a capital.
    have hruns : upperRuns.all (CaseRun.landsOn Char.isUpper) = true := by decide +kernel
    have hexpansions : upperExpansions.all (fun e => e.2.all (landsOn Char.isUpper)) = true := by
      decide +kernel
    have hnot : c.isLower = false := Bool.eq_false_iff.2 fun hlower => hc (ascii_of_isLower hlower)
    exact (kind_of_mem_mapBeyondAscii hruns hexpansions h hd).imp_right fun heq => ⟨heq, hnot⟩

/-- A character of a lower-case (`lowerChar`) form is beyond the control characters that follow
ASCII, a small letter, or the character itself, which then is no capital. -/
theorem low_of_mem_lowerChar {c d : Char} (h : d ∈ lowerChar c) (hd : d.toNat < 0xA0) :
    d.isLower = true ∨ d = c ∧ c.isUpper = false := by
  unfold lowerChar at h
  split at h
  · next hc =>
    rw [List.mem_singleton] at h
    subst h
    refine of_toNat_lt (P := fun c => c.toLower.isLower = true ∨
      c.toLower = c ∧ c.isUpper = false) ?_ hc
    decide
  · next hc =>
    -- for the other characters the tables were checked entry by entry
    have hruns : lowerRuns.all (CaseRun.landsOn Char.isLower) = true := by decide +kernel
    have hexpansions : lowerExpansions.all (fun e => e.2.all (landsOn Char.isLower)) = true := by
      decide +kernel
    have hnot : c.isUpper = false := Bool.eq_false_iff.2 fun hupper => hc (ascii_of_isUpper hupper)
    exact (kind_of_mem_mapBeyondAscii hruns hexpansions h hd).imp_right fun heq => ⟨heq, hnot⟩

/-- An upper-case (`upperChar`) form has at least one character. -/
theorem upperChar_ne_nil (c : Char) : upperChar c ≠ [] := by
  unfold upperChar
  split
  · exact List.cons_ne_nil _ _
  · unfold mapBeyondAscii
    split
    · next e hfind =>
      -- no character is mapped to nothing
      have hlong : upperExpansions.all (fun e => !e.2.isEmpty) = true := by decide +kernel
      have he := List.all_eq_true.1 hlong e (List.mem_of_find?_eq_some hfind)
      simpa using he
    · exact List.cons_ne_nil _ _

/-- Whether a character is its own upper-case and its own lower-case form. -/
def isFixed (c : Char) : Bool := upperChar c == [c] && lowerChar c == [c]

/-- The control characters that follow ASCII have no other forms (`isFixed`). -/
theorem isFixed_of_beyond {c : Char} (hascii : ¬ c.toNat < 128) (hc : c.toNat < 0xA0) :
    isFixed c = true := by
  have hupper : upperChar c = [c] := by
    rw [upperChar, if_neg hascii]
    exact mapBeyondAscii_of_lt (by decide +kernel) (by decide +kernel) hc
  have hlower : lowerChar c = [c] := by
    rw [lowerChar, if_neg hascii]
    exact mapBeyondAscii_of_lt (by decide +kernel) (by decide +kernel) hc
  rw [isFixed, hupper, hlower, Bool.and_eq_true, beq_self_eq_true]
  exact ⟨rfl, rfl⟩

/-! ## Texts -/

/-- A character of a text in lower (`lowerFrom`) case is beyond the control characters that follow
ASCII, a small letter, or one of the text. -/
theorem low_of_mem_lowerFrom {before s : List Char} {d : Char} (h : d ∈ lowerFrom before s)
    (hd : d.toNat < 0xA0) : d.isLower = true ∨ d ∈ s := by
  induction s generalizing before with
  | nil => cases h
  | cons c rest ih =>
    rw [lowerFrom, List.mem_append] at h
    rcases h with hfirst | hrest
    · split at hfirst
      · -- a sigma of either form is beyond
        exfalso
        rw [List.mem_singleton] at hfirst
        subst hfirst
        revert hd
        split <;> decide
      · rcases low_of_mem_lowerChar hfirst hd with hlower | ⟨rfl, -⟩
        · exact .inl hlower
        · exact .inr List.mem_cons_self
    · exact (ih hrest).imp_right (List.mem_cons_of_mem c)

/-- Lower (`lowerFrom`) case keeps characters without other forms. -/
theorem mem_lowerFrom_of_fixed {before s : List Char} {c : Char} (hfixed : isFixed c = true)
    (h : c ∈ s) : c ∈ lowerFrom before s := by
  induction s generalizing before with
  | nil => cases h
  | cons first rest ih =>
    rw [lowerFrom, List.mem_append]
    rcases List.mem_cons.1 h with rfl | hrest
    · -- Only the capital sigma looks at its neighbours, and it has another form.
      have hsigma : c ≠ 'Σ' := by
        rintro rfl
        revert hfixed
        decide +kernel
      have hlower : lowerChar c = [c] := by
        rw [isFixed, Bool.and_eq_true, beq_iff_eq, beq_iff_eq] at hfixed
        exact hfixed.2
      rw [if_neg hsigma, hlower]
      exact .inl List.mem_cons_self
    · exact .inr (ih hrest)

/-- Lower (`lowerFrom`) case keeps every underscore and adds none. -/
theorem count_lowerFrom (before s : List Char) :
    (lowerFrom before s).count '_' = s.count '_' := by
  induction s generalizing before with
  | nil => rfl
  | cons c rest ih =>
    rw [lowerFrom, List.count_append, ih, List.count_cons, Nat.add_comm]
    congr 1
    by_cases hc : c = '_'
    · subst hc
      rw [if_neg (by decide)]
      decide
    · -- A form of another character is no underscore, as it would be a small letter.
      have hnot : '_' ∉ (if c = 'Σ' then
          [if startsCased before && !startsCased rest then 'ς' else 'σ'] else lowerChar c) := by
        split
        · rw [List.mem_singleton]
          split <;> decide
        · intro hmem
          rcases low_of_mem_lowerChar hmem (by decide) with hlower | ⟨heq, -⟩
          · cases hlower
          · exact hc heq.symm
      rw [List.count_eq_zero.2 hnot, if_neg (by simpa using hc)]

end Parlance.Text
