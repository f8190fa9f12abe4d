import Mathlib.Data.List.Nodup
import Parlance.Proofs.Code.Evaluation
import Parlance.Proofs.Message.Rendering

/-!
# The plural and the select function choose the branch that is rendered

The generated module splits the branches of a plural into exact numbers, categories and `other`, and
its functions look a count up in each of them. That gives the form which a look through all the
branches gives (`pluralCall_of_entries`), because the keys are distinct and a count equals one
number at most. For a selection the same holds of cases and `other` (`choose_of_entries`).
-/

namespace Parlance.Code

open Parlance.Number Parlance.Rendering

/-! ## Lists with distinct keys -/

/-- A search from the end finds what a search from the start does, where one thing is found. -/
private theorem find?_reverse_of_unique {α : Type} {l : List α} {p : α → Bool}
    (h : ∀ a ∈ l, ∀ b ∈ l, p a = true → p b = true → a = b) :
    l.reverse.find? p = l.find? p := by
  cases hfirst : l.find? p with
  | none =>
    rw [List.find?_eq_none] at hfirst ⊢
    simpa using hfirst
  | some a =>
    have ha := List.mem_of_find?_eq_some hfirst
    have hpa := List.find?_some hfirst
    cases hlast : l.reverse.find? p with
    | none => exact absurd hpa (List.find?_eq_none.1 hlast a (List.mem_reverse.2 ha))
    | some b =>
      have hb := List.mem_reverse.1 (List.mem_of_find?_eq_some hlast)
      -- both searches succeed, and only one thing can be found
      rw [h a ha b hb hpa (List.find?_some hlast)]

/-- Looking up among some names gives what is given for the name. -/
private theorem find?_filterMap_names {κ α : Type} [BEq κ] [LawfulBEq κ] (names : List κ)
    (value : κ → Option α) (k : κ) :
    ((names.filterMap fun c => (value c).map (c, ·)).find? (·.1 == k)).map (·.2) =
      if k ∈ names then value k else none := by
  induction names with
  | nil => rfl
  | cons c rest ih =>
    -- the name itself may have no value, and others are passed over
    by_cases hck : c = k
    · subst hck
      cases hvalue : value c with
      | none =>
        rw [List.filterMap_cons, hvalue, Option.map_none, ih, hvalue]
        simp
      | some v => simp [hvalue]
    · have hkc : ¬ k = c := fun h => hck h.symm
      cases hvalue : value c with
      | none =>
        rw [List.filterMap_cons, hvalue, Option.map_none, ih]
        simp [hkc]
      | some v =>
        rw [List.filterMap_cons, hvalue, Option.map_some,
          List.find?_cons_of_neg (by simpa using hck), ih]
        simp [hkc]

/-- Two entries with one key are the same, where keys are distinct. -/
private theorem eq_of_key_eq {α : Type} {entries : List (Key × α)}
    (hkeys : (entries.map (·.1)).Nodup)
    {a b : Key × α} (ha : a ∈ entries) (hb : b ∈ entries) (h : a.1 = b.1) : a = b :=
  List.inj_on_of_nodup_map hkeys ha hb h

/-! ## Counts and numbers -/

/-- A count equals one integer (`eqInt`) at most. -/
private theorem eqInt_unique {n : Quantity} {i j : Int} (hi : n.eqInt i = true)
    (hj : n.eqInt j = true) : i = j := by
  cases n with
  | integer k =>
    simp only [Quantity.eqInt, beq_iff_eq] at hi hj
    exact hi.symm.trans hj
  -- a number with a fraction compares by sign and magnitude
  | double x =>
    cases x with
    | finite negative mantissa exponent =>
      simp only [Quantity.eqInt, Double.eqInt, Bool.and_eq_true, beq_iff_eq] at hi hj
      exact hi.2.symm.trans hj.2
    | _ => cases hi
  | decimal a =>
    cases a with
    | finite d =>
      simp only [Quantity.eqInt, Amount.eqInt, Decimal.eqInt] at hi hj
      split at hi
      · next hzero =>
        simp only [hzero, if_true, beq_iff_eq] at hi hj
        exact hi.trans hj.symm
      · next hzero =>
        simp only [hzero, if_false, Bool.and_eq_true, beq_iff_eq] at hi hj
        exact hi.2.symm.trans hj.2
    | _ => cases hi
  | written s => cases hi

/-- A count that the plural function accepts in a locale: it can be compared with integers, and
locale data has a category for it. -/
structure IsCount (data : PluralData) (locale : String) (n : Quantity) : Prop where
  comparable : n.isComparable = true
  category : ∃ name, data.categoryOf locale n = .ok name

/-! ## Entries of a choice -/

/-- The texts of the branches of a choice as forms to choose from. -/
def formsOf (entries : List (Key × String)) : List (Key × Except NumberFault String) :=
  entries.map fun e => (e.1, .ok e.2)

/-- `formsOf` wraps every form as a result, which `formOf` finds as before. -/
private theorem formOf_formsOf (entries : List (Key × String)) (key : Key) :
    formOf (formsOf entries) key = (formOf entries key).map .ok := by
  simp [formOf, formsOf, List.find?_map, Function.comp_def]

/-- `exactFormOf` finds it as before, too. -/
private theorem exactFormOf_formsOf (entries : List (Key × String)) (count : Quantity) :
    exactFormOf (formsOf entries) count = (exactFormOf entries count).map .ok := by
  simp [exactFormOf, formsOf, List.find?_map, Function.comp_def]

/-- With a form for `other`, every word has one: its own, or that of `other`. -/
private theorem wordFormOf_formsOf {entries : List (Key × String)} {other : String}
    (hother : formOf entries .other = some other) (word : String) :
    wordFormOf (formsOf entries) word = .ok ((formOf entries (.word word)).getD other) := by
  rw [wordFormOf, formOf_formsOf, formOf_formsOf, hother]
  cases formOf entries (.word word) <;> rfl

/-- The entry for `other` has a form. -/
private theorem exists_formOf_other {entries : List (Key × String)}
    (hother : Key.other ∈ entries.map (·.1)) : ∃ other, formOf entries .other = some other := by
  obtain ⟨e, he, hkey⟩ := List.mem_map.1 hother
  cases hfind : entries.find? (·.1 == Key.other) with
  | none => exact absurd (List.find?_eq_none.1 hfind e he) (by simp [hkey])
  | some d => exact ⟨d.2, by rw [formOf, hfind]; rfl⟩

/-! ## Plurals -/

/-- The entries of the dictionary of exact numbers. -/
def exactEntries (entries : List (Key × String)) : List (Key × String) :=
  entries.filter (·.1.value?.isSome)

/-- The texts that are passed by keyword. -/
def wordTexts (entries : List (Key × String)) : Assoc String :=
  pluralCategories.filterMap fun w => (formOf entries (.word w)).map (w, ·)

/-- The text of a category that is passed (`wordTexts`) is the form of its word. -/
private theorem get?_wordTexts (entries : List (Key × String)) {w : String}
    (hw : w ∈ pluralCategories) : (wordTexts entries).get? w = formOf entries (.word w) := by
  rw [Assoc.get?, wordTexts, find?_filterMap_names, if_pos hw]

/-- The entries with exact keys are all that `exactForms` reads. -/
private theorem exactForms_exactEntries (entries : List (Key × String)) :
    exactForms (exactEntries entries) = exactForms entries := by
  rw [exactForms, exactEntries, List.filterMap_filter, exactForms]
  congr 1
  funext e
  cases e.1.value? <;> rfl

/-- Of the exact forms (`exactForms`), a count is looked up to the one that a search through all
entries finds. -/
private theorem find?_exactForms {entries : List (Key × String)} (hkeys : (entries.map (·.1)).Nodup)
    (count : Quantity) :
    ((exactForms entries).reverse.find? fun form => count.eqInt form.1).map (·.2) =
      exactFormOf entries count := by
  have hunique : ∀ a ∈ exactForms entries, ∀ b ∈ exactForms entries,
      count.eqInt a.1 = true → count.eqInt b.1 = true → a = b := by
    intro a ha b hb hca hcb
    obtain ⟨⟨k, s⟩, hs, hks⟩ := List.mem_filterMap.1 ha
    obtain ⟨⟨l, t⟩, ht, hlt⟩ := List.mem_filterMap.1 hb
    -- two exact keys that equal the count are one key, and keys are distinct
    cases k <;> cases l <;> simp only [Key.value?, Option.map_some, Option.map_none,
      Option.some.injEq, reduceCtorEq] at hks hlt
    subst hks hlt
    have hij := Int.ofNat.inj (eqInt_unique hca hcb)
    have heq := eq_of_key_eq hkeys hs ht (congrArg Key.exact hij)
    simp only [Prod.mk.injEq, Key.exact.injEq] at heq
    rw [heq.1, heq.2]
  rw [find?_reverse_of_unique hunique, exactForms, List.find?_filterMap, exactFormOf]
  have hsame : (fun e : Key × String => (e.1.value?.map fun n => (Int.ofNat n, e.2)).any
      fun form => count.eqInt form.1) =
      fun e => e.1.value?.any fun n => count.eqInt (Int.ofNat n) := by
    funext e
    cases e.1.value? <;> rfl
  rw [hsame]
  cases hfind : entries.find? fun e => e.1.value?.any fun n => count.eqInt (Int.ofNat n) with
  | none => rfl
  | some e =>
    have he := List.find?_some hfind
    cases hvalue : e.1.value? with
    | none => simp [hvalue] at he
    | some n => simp [hvalue]

/-- Of the categories, a count is looked up to the text of its category; there is none for
`other`. -/
private theorem find?_categoryForms (entries : List (Key × String)) (c : PluralCategory) :
    ((categoryForms (wordTexts entries)).find? (·.1 == c)).map (·.2) =
      if c = .other then none else formOf entries (.word c.name) := by
  rw [categoryForms, find?_filterMap_names]
  have hname : c.name ∈ pluralCategories := by cases c <;> decide
  rw [get?_wordTexts entries hname]
  cases c <;> rfl

/-- The entries of a plural: no two have one key, one is `other`, and every word is a category. -/
structure IsPlural (entries : List (Key × String)) : Prop where
  keys : (entries.map (·.1)).Nodup
  other : Key.other ∈ entries.map (·.1)
  words : ∀ w, Key.word w ∈ entries.map (·.1) → w ∈ pluralCategories

/-- A category is the one that is found by its name (`ofName?`). -/
private theorem name_of_ofName? {name : String} {c : PluralCategory}
    (h : PluralCategory.ofName? name = some c) : c.name = name := by
  simpa using List.find?_some h

/-- A name that is no category has no form (`formOf`) among the entries of a plural. -/
private theorem formOf_of_ofName?_eq_none {entries : List (Key × String)}
    (hwords : ∀ w, Key.word w ∈ entries.map (·.1) → w ∈ pluralCategories) {name : String}
    (h : PluralCategory.ofName? name = none) : formOf entries (.word name) = none := by
  rw [formOf, Option.map_eq_none_iff, List.find?_eq_none]
  intro e he hkey
  have hname := hwords name (List.mem_map.2 ⟨e, he, by simpa using hkey⟩)
  -- every category is found by its name
  have hall : pluralCategories.all (fun w => (PluralCategory.ofName? w).isSome) = true := by decide
  have hsome := List.all_eq_true.1 hall name hname
  rw [h] at hsome
  cases hsome

/-- The categories that are passed have the form of a name, if there is one, and `other` has the
rest. -/
private theorem categoryForm?_of_entries {entries : List (Key × String)} {other : String}
    (hwords : ∀ w, Key.word w ∈ entries.map (·.1) → w ∈ pluralCategories)
    (ho : formOf entries .other = some other) (exact : List (Int × String)) (name : String) :
    ((PluralCategory.ofName? name).bind
        (⟨exact, categoryForms (wordTexts entries), other⟩ : PluralForms).categoryForm?).getD other
        =
      (formOf entries (.word name)).getD other := by
  -- a name that is no category has no entry, so both sides fall back to `other`
  cases hname : PluralCategory.ofName? name with
  | none => rw [formOf_of_ofName?_eq_none hwords hname, Option.bind_none]
  | some c =>
    rw [Option.bind_some, PluralForms.categoryForm?, find?_categoryForms, name_of_ofName? hname]
    split
    · next hc =>
      subst hc
      rw [← name_of_ofName? hname]
      exact (congrArg (Option.getD · other) ho).symm
    · rfl

/-- The plural function (`pluralCall`) gives the form of the count among all entries, unless it
cannot compare the count. -/
theorem pluralCall_of_entries {entries : List (Key × String)} (h : IsPlural entries)
    (data : PluralData) (locale : String) (count : Quantity) :
    pluralCall data locale count (exactEntries entries) (wordTexts entries) =
      if !(exactForms entries).isEmpty && !count.isComparable then
        .error (.number .notNumeric)
      else (pluralFormOf data locale count (formsOf entries)).mapError .number := by
  obtain ⟨other, ho⟩ := exists_formOf_other h.other
  have hget : (wordTexts entries).get? "other" = some other := by
    rw [get?_wordTexts entries (by decide)]
    exact ho
  rw [pluralCall, hget]
  simp only [PluralForms.choose, PluralForms.exactForm?, exactForms_exactEntries,
    find?_exactForms h.keys]
  split
  · rfl
  · rw [pluralFormOf, exactFormOf_formsOf]
    -- the exact numbers come first on both sides; only without one does the category matter
    cases exactFormOf entries count with
    | some form => rfl
    | none =>
      cases hcategory : data.categoryOf locale count with
      | error f => rfl
      | ok name =>
        rw [Option.map_none]
        simp only [Except.bind, wordFormOf_formsOf ho]
        exact congrArg Except.ok (categoryForm?_of_entries h.words ho _ name)

/-- A form that the plural (`pluralFormOf`) function gives is the one among all entries. -/
theorem pluralFormOf_of_pluralCall {entries : List (Key × String)} (hentries : IsPlural entries)
    {data : PluralData} {locale : String} {count : Quantity} {s : String}
    (h : pluralCall data locale count (exactEntries entries) (wordTexts entries) = .ok s) :
    pluralFormOf data locale count (formsOf entries) = .ok s := by
  rw [pluralCall_of_entries hentries] at h
  split at h
  · cases h
  · cases hform : pluralFormOf data locale count (formsOf entries) with
    | error f => simp [hform, Except.mapError] at h
    | ok t => simpa [hform, Except.mapError] using h

/-- The plural function gives a form for every count that it accepts (`IsCount`). -/
theorem exists_pluralCall {entries : List (Key × String)} (hentries : IsPlural entries)
    {data : PluralData} {locale : String} {count : Quantity} (hcount : IsCount data locale count) :
    ∃ s, pluralCall data locale count (exactEntries entries) (wordTexts entries) = .ok s := by
  obtain ⟨other, ho⟩ := exists_formOf_other hentries.other
  obtain ⟨name, hcategory⟩ := hcount.category
  rw [pluralCall_of_entries hentries, hcount.comparable, pluralFormOf, exactFormOf_formsOf]
  cases exactFormOf entries count with
  | some form => exact ⟨form, by simp [Except.mapError]⟩
  | none => exact ⟨_, by simp [hcategory, Except.bind, wordFormOf_formsOf ho, Except.mapError]; rfl⟩

/-! ## Selections -/

/-- The entries of the dictionary of cases. -/
def caseEntries (entries : List (Key × String)) : List (Key × String) :=
  entries.filter (·.1 != .other)

/-- Among the cases, a word is looked up to its form; there is none for `other`. -/
private theorem get?_caseForms (entries : List (Key × String)) (w : String) :
    (caseForms (caseEntries entries)).get? w =
      if Key.word w = .other then none else formOf entries (.word w) := by
  induction entries with
  | nil => simp [caseEntries, caseForms, Assoc.get?, formOf]
  | cons e rest ih =>
    obtain ⟨key, s⟩ := e
    rw [formOf, List.find?_cons]
    cases key with
    -- exact keys are kept out of the cases
    | exact n =>
      rw [caseEntries, List.filter_cons_of_pos (by simp [Key.other]), caseForms,
        List.filterMap_cons]
      exact ih
    | word v =>
      -- and so is `other`, which has an argument of its own
      by_cases hv : Key.word v = .other
      · rw [caseEntries, List.filter_cons_of_neg (by simp [hv])]
        refine ih.trans ?_
        by_cases hw : Key.word w = .other
        · simp [hw]
        · have hne : (Key.word v == Key.word w) = false := by
            rw [hv]
            simpa using Ne.symm hw
          simp [hw, hne, formOf]
      · rw [caseEntries, List.filter_cons_of_pos (by simpa using hv), caseForms,
          List.filterMap_cons, Assoc.get?_cons]
        by_cases hvw : v = w
        · subst hvw
          simp [hv]
        · have hne : (Key.word v == Key.word w) = false := by simpa using hvw
          simp only [hvw, if_false, hne]
          exact ih

/-- The select function (`choose`) gives the form of the choice among all entries. -/
theorem choose_of_entries {entries : List (Key × String)} {other : String}
    (hother : formOf entries .other = some other) (choice : Choice) :
    wordFormOf (formsOf entries) choice.key =
      .ok (choice.choose (caseForms (caseEntries entries)) other) := by
  rw [wordFormOf_formsOf hother, Choice.choose, get?_caseForms]
  split
  · next hkey =>
    rw [hkey, hother]
    rfl
  · rfl

end Parlance.Code
