import Parlance.Text.Decomposition
import Parlance.Text.Ranges

/-!
# Normal forms of identifiers

Two names are the same identifier if their normal forms `nfkc` are the same text: every character is
decomposed as far as it goes (`decompose`), the marks on each character are sorted (`sortMarks`),
and then marks are put back on their characters where there is a composite of both (`compose`). A
text of ASCII is its own normal form (`nfkc_of_ascii`), and stays as it is behind any other text
(`nfkc_append_of_ascii`).
-/

namespace Parlance.Text

/-! ## Syllables of Hangul -/

namespace Hangul

/-- The first syllable. Those with the same lead follow each other, and among them those with the
same vowel. -/
def firstSyllable : Nat := 0xAC00

def firstLead : Nat := 0x1100

def firstVowel : Nat := 0x1161

/-- The code point before the first tail; a syllable without a tail has it in the place of one. -/
def noTail : Nat := 0x11A7

def leadCount : Nat := 19

def vowelCount : Nat := 21

def tailCount : Nat := 28

/-- Whether a code point is a syllable. -/
def isSyllable (code : Nat) : Bool :=
  firstSyllable ≤ code && code < firstSyllable + leadCount * vowelCount * tailCount

/-- The lead, the vowel and the tail of a syllable. -/
def decompose (code : Nat) : List Nat :=
  let index := code - firstSyllable
  let tail := index % tailCount
  [firstLead + index / (vowelCount * tailCount),
    firstVowel + index % (vowelCount * tailCount) / tailCount] ++
    if tail = 0 then [] else [noTail + tail]

/-- The syllable of a lead and a vowel, or of a syllable without a tail and a tail. -/
def composite? (first second : Nat) : Option Nat :=
  if firstLead ≤ first && first < firstLead + leadCount &&
      firstVowel ≤ second && second < firstVowel + vowelCount then
    some (firstSyllable +
      ((first - firstLead) * vowelCount + (second - firstVowel)) * tailCount)
  else if isSyllable first && (first - firstSyllable) % tailCount == 0 &&
      noTail < second && second < noTail + tailCount then
    some (first + (second - noTail))
  else none

end Hangul

/-! ## Decomposition -/

/-- The character that a composite comes down to, and its marks. The composites that are made of
composites come last in the table, so that one way through it, from its end, is enough. -/
def splitComposite (code : Nat) : Nat × List Nat :=
  composites.foldr (fun (composite, first, mark) (base, marks) =>
    if composite = base then (first, mark :: marks) else (base, marks)) (code, [])

/-- What a character that is no composite stands for. -/
def replacement (code : Nat) : List Nat :=
  match shiftedCharacters.find? fun (first, last, _) => first ≤ code && code ≤ last with
  | some (_, _, shift) => [(Int.ofNat code + shift).toNat]
  | none =>
    match replacedCharacters.find? fun (first, targets) =>
      first ≤ code && code < first + targets.length with
    | some (first, targets) => [targets.getD (code - first) code]
    | none => ((expandedCharacters.find? fun entry => entry.1 == code).map (·.2)).getD [code]

/-- The characters that a character is decomposed into. -/
def decompose (code : Nat) : List Nat :=
  if Hangul.isSyllable code then Hangul.decompose code
  else replacement (splitComposite code).1 ++ (splitComposite code).2

/-! ## Marks in order -/

/-- The combining class of a character; it is 0 for all that is no mark. -/
def combiningClass (code : Nat) : Nat :=
  ((combiningClasses.find? fun entry => inRanges entry.2 code).map (·.1)).getD 0

/-- A character before characters whose marks are in order: it goes behind the marks of smaller
classes, if it is a mark. -/
def placeMark (code : Nat) : List Nat → List Nat
  | [] => [code]
  | next :: rest =>
    if 0 < combiningClass next && combiningClass next < combiningClass code then
      next :: placeMark code rest
    else code :: next :: rest

/-- Characters with the marks on each of them in the order of their classes. -/
def sortMarks (codes : List Nat) : List Nat := codes.foldr placeMark []

/-! ## Composition -/

/-- The composite of two characters. -/
def composite? (first second : Nat) : Option Nat :=
  (Hangul.composite? first second).or
    ((composites.find? fun entry => entry.2.1 == first && entry.2.2 == second).map (·.1))

/-- Whether marks that stay behind a character keep what follows from being put on it. -/
def blocks (kept : List Nat) (code : Nat) : Bool :=
  kept.getLast?.any fun last => combiningClass code ≤ combiningClass last

/-- Puts what follows on a character as far as there are composites; the marks that there is no
composite for stay behind it. -/
def composeFrom (base : Nat) (kept : List Nat) : List Nat → List Nat
  | [] => base :: kept
  | code :: rest =>
    match if blocks kept code then none else composite? base code with
    | some composite => composeFrom composite kept rest
    | none =>
      if combiningClass code = 0 then base :: kept ++ composeFrom code [] rest
      else composeFrom base (kept ++ [code]) rest

/-- Characters with their marks put on them where there are composites. -/
def compose : List Nat → List Nat
  | [] => []
  | code :: rest => composeFrom code [] rest

/-- The normal form of a name. -/
def nfkc (s : String) : String :=
  String.ofList
    ((compose (sortMarks (s.toList.flatMap fun c => decompose c.toNat))).map Char.ofNat)

/-! ## Texts of ASCII -/

/-- Whether a text consists of characters of ASCII. -/
def IsAscii (s : String) : Prop := ∀ c ∈ s.toList, c.toNat < 128

instance decidableIsAscii (s : String) : Decidable (IsAscii s) :=
  List.decidableBAll (fun c : Char => c.toNat < 128) s.toList

/-- No composite (`composites`), and no mark that one is made of, is a character of ASCII. -/
private theorem le_of_mem_composites {entry : Nat × Nat × Nat} (h : entry ∈ composites) :
    128 ≤ entry.1 ∧ 128 ≤ entry.2.2 := by
  have hall : composites.all (fun entry => 128 ≤ entry.1 && 128 ≤ entry.2.2) = true := by
    decide +kernel
  simpa using List.all_eq_true.1 hall entry h

/-- A character that is no composite (`composites`) comes down to itself. -/
private theorem splitComposite_of_ne {code : Nat} (h : ∀ entry ∈ composites, entry.1 ≠ code) :
    splitComposite code = (code, []) := by
  unfold splitComposite
  generalize composites = entries at h
  -- the way through the table meets no entry of the character
  induction entries with
  | nil => rfl
  | cons entry rest ih =>
    obtain ⟨hentry, hrest⟩ := List.forall_mem_cons.1 h
    rw [List.foldr_cons, ih hrest]
    exact if_neg hentry

/-- A character of ASCII stands for itself. -/
private theorem replacement_of_lt {code : Nat} (h : code < 128) : replacement code = [code] := by
  have hshifted : shiftedCharacters.all (fun entry => 128 ≤ entry.1) = true := by decide +kernel
  have hreplaced : replacedCharacters.all (fun entry => 128 ≤ entry.1) = true := by decide +kernel
  have hexpanded : expandedCharacters.all (fun entry => 128 ≤ entry.1) = true := by decide +kernel
  simp only [List.all_eq_true, decide_eq_true_eq] at hshifted hreplaced hexpanded
  -- none of the three tables has an entry for the code
  have hfirst : shiftedCharacters.find? (fun (first, last, _) => first ≤ code && code ≤ last) =
      none := by
    refine List.find?_eq_none.2 fun entry hentry => ?_
    have hle := hshifted entry hentry
    simp only [Bool.and_eq_true, decide_eq_true_eq, not_and]
    omega
  have hsecond : replacedCharacters.find? (fun (first, targets) =>
      first ≤ code && code < first + targets.length) = none := by
    refine List.find?_eq_none.2 fun entry hentry => ?_
    have hle := hreplaced entry hentry
    simp only [Bool.and_eq_true, decide_eq_true_eq, not_and]
    omega
  have hthird : expandedCharacters.find? (fun entry => entry.1 == code) = none := by
    refine List.find?_eq_none.2 fun entry hentry => ?_
    have hle := hexpanded entry hentry
    rw [beq_iff_eq]
    omega
  rw [replacement, hfirst, hsecond, hthird]
  rfl

/-- A character of ASCII is not decomposed (`decompose`). -/
private theorem decompose_of_lt {code : Nat} (h : code < 128) : decompose code = [code] := by
  have hsyllable : ¬ Hangul.isSyllable code = true := by
    rw [Hangul.isSyllable, Bool.and_eq_true, decide_eq_true_eq, Hangul.firstSyllable]
    omega
  have hcomposite : ∀ entry ∈ composites, entry.1 ≠ code := fun entry hentry => by
    have hle := (le_of_mem_composites hentry).1
    omega
  rw [decompose, if_neg hsyllable, splitComposite_of_ne hcomposite, replacement_of_lt h]
  rfl

/-- A character of ASCII is no mark (`combiningClass`). -/
private theorem combiningClass_of_lt {code : Nat} (h : code < 128) : combiningClass code = 0 := by
  have hall : combiningClasses.all (fun entry => entry.2.all fun r => 128 ≤ r.1) = true := by
    decide +kernel
  simp only [List.all_eq_true, decide_eq_true_eq] at hall
  -- every range of the table begins beyond ASCII
  have hnone : combiningClasses.find? (fun entry => inRanges entry.2 code) = none := by
    refine List.find?_eq_none.2 fun entry hentry hcode => ?_
    obtain ⟨r, hr, hle, -⟩ := inRanges_iff.1 hcode
    have hbeyond := hall entry hentry r hr
    omega
  rw [combiningClass, hnone]
  rfl

/-- A character of ASCII goes on no other one. -/
private theorem composite?_of_lt (first : Nat) {second : Nat} (h : second < 128) :
    composite? first second = none := by
  have hhangul : Hangul.composite? first second = none := by
    unfold Hangul.composite? Hangul.firstVowel Hangul.noTail
    rw [if_neg (by simp; omega), if_neg (by simp; omega)]
  rw [composite?, hhangul, Option.none_or, Option.map_eq_none_iff, List.find?_eq_none]
  intro entry hentry
  have hmark := (le_of_mem_composites hentry).2
  simp only [Bool.and_eq_true, beq_iff_eq, not_and]
  omega

/-- A mark (`placeMark`) goes behind no character of ASCII. -/
private theorem placeMark_append {codes : List Nat} (h : ∀ code ∈ codes, code < 128) (code : Nat)
    (others : List Nat) : placeMark code (others ++ codes) = placeMark code others ++ codes := by
  induction others with
  | nil =>
    -- a code of class 0 stops every mark before it
    cases codes with
    | nil => rfl
    | cons next rest => simp [placeMark, combiningClass_of_lt (List.forall_mem_cons.1 h).1]
  | cons next others ih =>
    rw [List.cons_append, placeMark, placeMark]
    split
    · rw [ih, List.cons_append]
    · rfl

/-- What is no mark (`combiningClass`) stays where it is, and keeps the marks before it where they
are. -/
private theorem sortMarks_append {codes : List Nat} (h : ∀ code ∈ codes, code < 128)
    (others : List Nat) : sortMarks (others ++ codes) = sortMarks others ++ codes := by
  induction others with
  | nil =>
    induction codes with
    | nil => rfl
    | cons code rest ih =>
      obtain ⟨-, hrest⟩ := List.forall_mem_cons.1 h
      -- codes of class 0 stay where they are
      have hsorted : rest.foldr placeMark [] = rest := ih hrest
      rw [List.nil_append, sortMarks, List.foldr_cons, hsorted]
      exact placeMark_append hrest code []
  | cons code others ih =>
    have hsorted : (others ++ codes).foldr placeMark [] = others.foldr placeMark [] ++ codes := ih
    rw [List.cons_append, sortMarks, List.foldr_cons, hsorted]
    exact placeMark_append h code _

/-- Nothing of ASCII is put on anything (`composeFrom`). -/
private theorem composeFrom_append {codes : List Nat} (h : ∀ code ∈ codes, code < 128)
    (base : Nat) (kept others : List Nat) :
    composeFrom base kept (others ++ codes) = composeFrom base kept others ++ codes := by
  induction others generalizing base kept with
  | nil =>
    induction codes generalizing base kept with
    | nil => simp
    | cons code rest ih =>
      obtain ⟨hcode, hrest⟩ := List.forall_mem_cons.1 h
      have hnext := ih hrest code []
      rw [List.nil_append] at hnext
      -- a code of ASCII is part of no composite, and starts a new base
      have hstep : composeFrom base kept (code :: rest) =
          base :: kept ++ composeFrom code [] rest := by
        rw [composeFrom, composite?_of_lt base hcode, ite_self]
        simp [combiningClass_of_lt hcode]
      rw [List.nil_append, hstep, hnext]
      rfl
  | cons code others ih =>
    rw [List.cons_append, composeFrom, composeFrom]
    split
    · exact ih _ _
    · split
      · rw [ih, List.append_assoc]
      · exact ih _ _

/-- Characters of ASCII are not decomposed (`decompose`). -/
private theorem flatMap_decompose_of_ascii {chars : List Char} (h : ∀ c ∈ chars, c.toNat < 128) :
    chars.flatMap (fun c => decompose c.toNat) = chars.map Char.toNat := by
  induction chars with
  | nil => rfl
  | cons c rest ih =>
    obtain ⟨hc, hrest⟩ := List.forall_mem_cons.1 h
    rw [List.flatMap_cons, decompose_of_lt hc, ih hrest, List.map_cons, List.singleton_append]

/-- Codes of ASCII are not composed with what is before them (`compose`). -/
private theorem compose_append {codes : List Nat} (h : ∀ code ∈ codes, code < 128)
    (others : List Nat) : compose (others ++ codes) = compose others ++ codes := by
  cases others with
  | cons code rest => exact composeFrom_append h code [] rest
  | nil =>
    -- the first of the codes is the base, and the others come behind it
    cases codes with
    | nil => rfl
    | cons code rest => exact composeFrom_append (List.forall_mem_cons.1 h).2 code [] []

/-- A text of ASCII stays as it is in the normal form of a text (`nfkc`) that ends with it. -/
theorem nfkc_append_of_ascii (s : String) {t : String} (h : IsAscii t) :
    nfkc (s ++ t) = nfkc s ++ t := by
  have hcodes : ∀ code ∈ t.toList.map Char.toNat, code < 128 := List.forall_mem_map.2 h
  -- the codes of ASCII become the characters that they were
  have hback : (t.toList.map Char.toNat).map Char.ofNat = t.toList := by
    rw [List.map_map]
    exact List.map_id'' (fun c => Char.ofNat_toNat c) t.toList
  rw [nfkc, nfkc, String.toList_append, List.flatMap_append, flatMap_decompose_of_ascii h,
    sortMarks_append hcodes, compose_append hcodes, List.map_append, hback, String.ofList_append,
    String.ofList_toList]

/-- A text of ASCII is its own normal form (`nfkc`). -/
theorem nfkc_of_ascii {s : String} (h : IsAscii s) : nfkc s = s := by
  have happend := nfkc_append_of_ascii "" h
  rwa [String.empty_append, show nfkc "" = "" from rfl, String.empty_append] at happend

-- comparing names must not go through the tables
attribute [irreducible] nfkc

/-- A ligature stands for its letters, and a letter with its mark behind it for the composite. -/
example : nfkc "ﬁn\u0061\u0301" = "finá" := by decide +kernel

end Parlance.Text
