import Parlance.Proofs.Code.Choices
import Parlance.Proofs.Code.Spelling

/-!
# The names that an expression reads

An expression reads the variables that its text looks up when it is evaluated. Constants, fields and
the names of arguments are no variables. A value of the metadata reads none, unless it holds a
number that is not finite, for such a number is written as a word (`readsOfValue_float`,
`mem_of_mem_readsOfValue`).
-/

namespace Parlance.Code

open Parlance.Grammar Parlance.Number Parlance.Text

/-! ## Reading names -/

/-- The variables that a word reads: itself, unless it is a number, a constant or another reserved
word. -/
def readsOfWord (word : String) : List String := if IsVariable word then [word] else []

/-- The variables that a dotted path reads; what stands behind a dot is a field. -/
def readsOfPath (path : String) : List String := (cutAt '.' path).head?.toList.flatMap readsOfWord

mutual

/-- The variables that the source text of a value reads. A number is a sign and a word. -/
def readsOfValue : Value → List String
  | .float x => readsOfWord (String.ofList (x.text.toList.dropWhile (· == '-')))
  | .list items => readsOfItems items
  | .set members => if members.isEmpty then ["set"] else readsOfItems members
  | .object entries => readsOfEntries entries
  | _ => []

/-- The variables that the source texts of some values read. -/
def readsOfItems : List Value → List String
  | [] => []
  | v :: rest => readsOfValue v ++ readsOfItems rest

/-- The variables that the source texts of the entries of an object read. -/
def readsOfEntries : List (String × Value) → List String
  | [] => []
  | (_, v) :: rest => readsOfValue v ++ readsOfEntries rest

end

mutual

/-- The variables that an expression reads. -/
def Expr.reads : Expr → List String
  | .literal _ => []
  | .number _ => []
  | .name path => readsOfPath path
  | .data v => readsOfValue v
  | .join left right => left.reads ++ right.reads
  | .call function _ arguments => readsOfPath function ++ readsOfArguments arguments
  | .dict entries => readsOfPairs entries
  | .tuple items => readsOfExprs items

/-- The variables that arguments read. -/
def readsOfArguments : List Argument → List String
  | [] => []
  | .mk _ value :: rest => value.reads ++ readsOfArguments rest

/-- The variables that the entries of a dictionary read. -/
def readsOfPairs : List Pair → List String
  | [] => []
  | .mk key value :: rest => key.reads ++ value.reads ++ readsOfPairs rest

/-- The variables that expressions read. -/
def readsOfExprs : List Expr → List String
  | [] => []
  | e :: rest => e.reads ++ readsOfExprs rest

end

/-- The variables that a statement reads. -/
def Statement.reads : Statement → List String
  | .assign _ value => value.reads
  | .giveBack value => value.reads
  | .refuse _ => ["NotImplementedError"]

/-! ## Words and paths -/

/-- A variable is a path that reads (`readsOfPath`) the variable. -/
theorem readsOfPath_variable {x : String} (h : IsVariable x) : readsOfPath x = [x] := by
  rw [readsOfPath, cutAt_identifier h.1]
  simp [readsOfWord, h]

/-! ## Numbers -/

/-- There is a digit before the point (`plainDigits`). -/
private theorem exists_digit_plainDigits (d : Decimal) :
    ∃ c rest, d.plainDigits.1 = c :: rest ∧ c.isDigit = true := by
  have hcons : ∀ digits : List Char, digits ≠ [] → (∀ c ∈ digits, c.isDigit = true) →
      ∃ c rest, digits = c :: rest ∧ c.isDigit = true := by
    intro digits hne hdigits
    obtain ⟨c, rest, rfl⟩ := List.exists_cons_of_ne_nil hne
    exact ⟨c, rest, rfl, hdigits c List.mem_cons_self⟩
  rw [Decimal.plainDigits]
  split
  · exact hcons _ (decimalDigits_ne_nil _) fun c hc => isDigit_of_mem_decimalDigits hc
  · refine hcons _ (fun hnil => ?_) fun c hc =>
      isDigit_of_mem_paddedDecimal (List.mem_of_mem_take hc)
    -- there is a digit more than there are places behind the point
    have hlength : d.fractionDigits + 1 ≤
        (paddedDecimal (d.fractionDigits + 1) d.coefficient).length := by
      rw [paddedDecimal, List.length_append, List.length_replicate]
      omega
    rcases List.take_eq_nil_iff.1 hnil with hzero | hnil
    · omega
    · simp [hnil] at hlength

/-- The text of a decimal (`floatText`) is something that begins with a digit, behind a sign if it
is negative. -/
private theorem exists_digit_floatText (d : Decimal) : ∃ sign c rest,
    (Double.floatText d).toList = sign ++ c :: rest ∧ (∀ s ∈ sign, s = '-') ∧
      c.isDigit = true := by
  have hsign : ∀ s ∈ (if d.negative then ['-'] else []), s = '-' := by
    -- in plain notation, or with an exponent: then the first digit of the coefficient comes first
    split <;> simp
  rw [Double.floatText, String.toList_ofList]
  generalize (if d.negative then ['-'] else []) = sign at hsign
  dsimp only
  split
  · obtain ⟨c, rest, hplain, hdigit⟩ := exists_digit_plainDigits d
    rw [hplain, List.cons_append]
    exact ⟨_, c, _, rfl, hsign, hdigit⟩
  · split
    · next hnil => exact absurd hnil (decimalDigits_ne_nil _)
    · next first rest hdigits =>
      have hfirst : first ∈ decimalDigits d.coefficient := hdigits ▸ List.mem_cons_self
      exact ⟨_, first, _, rfl, hsign, isDigit_of_mem_decimalDigits hfirst⟩

/-- A number that is not finite is written as a name (`readsOfValue`), and any other as none. -/
theorem readsOfValue_float (x : Double) :
    readsOfValue (.float x) =
      match x with
      | .finite .. => []
      | .infinite _ => ["inf"]
      | .notANumber => ["nan"] := by
  cases x with
  | finite negative mantissa exponent =>
    obtain ⟨sign, c, rest, htext, hsign, hdigit⟩ :=
      exists_digit_floatText (Double.toDecimal negative mantissa exponent)
    have hdrop : (sign ++ c :: rest).dropWhile (· == '-') = c :: rest := by
      rw [List.dropWhile_append_of_pos fun s hs => by simp [hsign s hs], List.dropWhile_cons_of_neg]
      rintro hminus
      rw [beq_iff_eq.1 hminus] at hdigit
      cases hdigit
    -- what begins with a digit is no variable
    have hno : ¬ IsVariable (String.ofList (c :: rest)) := by
      rintro ⟨hidentifier, -⟩
      rw [isIdentifier, String.toList_ofList, isIdentifierChars,
        (continuesNumeral_of_isDigit hdigit).1] at hidentifier
      cases hidentifier
    rw [readsOfValue, Double.text, htext, hdrop, readsOfWord, if_neg hno]
  | infinite negative => cases negative <;> decide
  | notANumber => decide

mutual

/-- The only names that a value reads (`readsOfValue`) are those of numbers that are not finite and
of the type of an empty set. -/
theorem mem_of_mem_readsOfValue {x : String} : ∀ v : Value, x ∈ readsOfValue v →
    x ∈ ["inf", "nan", "set"]
  | .null, h => by simp [readsOfValue] at h
  | .bool _, h => by simp [readsOfValue] at h
  | .int _, h => by simp [readsOfValue] at h
  | .text _, h => by simp [readsOfValue] at h
  | .bytes _, h => by simp [readsOfValue] at h
  | .moment _ _, h => by simp [readsOfValue] at h
  | .float number, h => by
    rw [readsOfValue_float] at h
    -- only a number that is not finite is written as a name
    split at h <;> simp_all
  | .list items, h => by
    rw [readsOfValue] at h
    exact mem_of_mem_readsOfItems items h
  | .set members, h => by
    rw [readsOfValue] at h
    split at h
    · simp_all
    · exact mem_of_mem_readsOfItems members h
  | .object entries, h => by
    rw [readsOfValue] at h
    exact mem_of_mem_readsOfEntries entries h

/-- So it is with the values of a list. -/
theorem mem_of_mem_readsOfItems {x : String} : ∀ items : List Value, x ∈ readsOfItems items →
    x ∈ ["inf", "nan", "set"]
  | [], h => by simp [readsOfItems] at h
  | v :: rest, h => by
    rw [readsOfItems] at h
    exact (List.mem_append.1 h).elim (mem_of_mem_readsOfValue v) (mem_of_mem_readsOfItems rest)

/-- So it is with the values of an object. -/
theorem mem_of_mem_readsOfEntries {x : String} : ∀ entries : List (String × Value),
    x ∈ readsOfEntries entries → x ∈ ["inf", "nan", "set"]
  | [], h => by simp [readsOfEntries] at h
  | (_, v) :: rest, h => by
    rw [readsOfEntries] at h
    exact (List.mem_append.1 h).elim (mem_of_mem_readsOfValue v) (mem_of_mem_readsOfEntries rest)

end

/-! ## Arguments, pairs and sums -/

section

variable {x : String}

/-- Arguments read (`readsOfArguments`) what their values read. -/
private theorem mem_readsOfArguments {arguments : List Argument} :
    x ∈ readsOfArguments arguments ↔ ∃ k e, .mk k e ∈ arguments ∧ x ∈ e.reads := by
  induction arguments with
  | nil => simp [readsOfArguments]
  | cons a rest ih =>
    cases a with
    | mk k e =>
      rw [readsOfArguments, List.mem_append, ih]
      constructor
      · rintro (h | ⟨k', e', hmem, h⟩)
        · exact ⟨k, e, List.mem_cons_self, h⟩
        · exact ⟨k', e', List.mem_cons_of_mem _ hmem, h⟩
      · rintro ⟨k', e', hmem, h⟩
        rcases List.mem_cons.1 hmem with heq | hmem
        · cases heq
          exact .inl h
        · exact .inr ⟨k', e', hmem, h⟩

/-- Arguments in a row (`readsOfArguments`) read what each of them reads, in order. -/
private theorem readsOfArguments_append (arguments more : List Argument) :
    readsOfArguments (arguments ++ more) = readsOfArguments arguments ++ readsOfArguments more := by
  induction arguments with
  | nil => simp [readsOfArguments]
  | cons a rest ih =>
    cases a with
    | mk k e => simp [readsOfArguments, ih]

/-- The pairs of a dictionary (`readsOfPairs`) read what their keys and values read. -/
private theorem mem_readsOfPairs {pairs : List Pair} :
    x ∈ readsOfPairs pairs ↔ ∃ k e, .mk k e ∈ pairs ∧ (x ∈ k.reads ∨ x ∈ e.reads) := by
  induction pairs with
  | nil => simp [readsOfPairs]
  | cons p rest ih =>
    cases p with
    | mk k e =>
      rw [readsOfPairs, List.mem_append, List.mem_append, ih]
      constructor
      · rintro (h | ⟨k', e', hmem, h⟩)
        · exact ⟨k, e, List.mem_cons_self, h⟩
        · exact ⟨k', e', List.mem_cons_of_mem _ hmem, h⟩
      · rintro ⟨k', e', hmem, h⟩
        rcases List.mem_cons.1 hmem with heq | hmem
        · cases heq
          exact .inl h
        · exact .inr ⟨k', e', hmem, h⟩

/-- Literals read nothing. -/
private theorem readsOfExprs_literals (texts : List String) :
    readsOfExprs (texts.map Expr.literal) = [] := by
  induction texts with
  | nil => rw [List.map_nil, readsOfExprs]
  | cons s rest ih => rw [List.map_cons, readsOfExprs, ih, Expr.reads, List.append_nil]

/-- A sum reads (`reads`) what its operands read. -/
theorem mem_reads_joinAll {es : List Expr} : x ∈ (joinAll es).reads ↔ ∃ e ∈ es, x ∈ e.reads := by
  cases es with
  | nil => simp [joinAll, Expr.reads]
  | cons e rest =>
    -- the sum is built from the left, so what has been added up so far is generalised
    have hfold : ∀ first : Expr, x ∈ (rest.foldl .join first).reads ↔
        x ∈ first.reads ∨ ∃ e ∈ rest, x ∈ e.reads := by
      induction rest with
      | nil => simp
      | cons next more ih =>
        intro first
        rw [List.foldl_cons, ih (.join first next), Expr.reads, List.mem_append, or_assoc]
        simp
    rw [joinAll, hfold e]
    simp

end

/-! ## Formatting -/

/-- The parameters of a number format that the formatting of a placeholder passes on. -/
def passedOptions (p : Resolved) : List (String × Value) :=
  if p.requiresDateFormatting then []
  else if p.hasParameterizedFormat then
    p.declared.parameters.filter fun o => formatKeywords.contains o.1
  else []

/-- The locale of an accessor is read off `self`. -/
theorem reads_localeName : localeName.reads = ["self"] := by
  rw [localeName, Expr.reads]
  decide

/-- An option reads (`reads`) the names that its value is written with. -/
private theorem reads_optionExpr (v : Value) : (optionExpr v).reads = readsOfValue v := by
  cases v <;> simp [optionExpr, Expr.reads, readsOfValue]

/-- The parameters of a number format (`passedOptions`) are passed on by keyword. -/
theorem formatOptions_eq_map {p : Resolved} (hdate : p.requiresDateFormatting = false) :
    formatOptions p = (passedOptions p).map fun o => .named o.1 (optionExpr o.2) := by
  unfold formatOptions passedOptions
  rw [hdate]
  split <;> simp

/-- The parameters of a number format (`formatOptions`) read what their values do. -/
private theorem mem_readsOfArguments_formatOptions {p : Resolved}
    (hdate : p.requiresDateFormatting = false) {x : String} :
    x ∈ readsOfArguments (formatOptions p) ↔ ∃ o ∈ passedOptions p, x ∈ readsOfValue o.2 := by
  rw [formatOptions_eq_map hdate]
  induction passedOptions p with
  | nil => simp [readsOfArguments]
  | cons o rest ih =>
    rw [List.map_cons, Argument.named, readsOfArguments, List.mem_append, reads_optionExpr]
    simpa using or_congr_right ih

/-- What formats the value of a parameter reads (`reads`) the parameter, the module that is
imported, the locale of the accessor, and the names that the parameters of the format are written
as. -/
theorem mem_reads_formatCall (p : Resolved) {parameter : String} (h : IsVariable parameter)
    {x : String} :
    x ∈ (formatCall p parameter).reads ↔
      x = "runtime" ∨ x = parameter ∨ x = "self" ∨ ∃ o ∈ passedOptions p, x ∈ readsOfValue o.2 := by
  have hparameter := readsOfPath_variable h
  have hdate : readsOfPath "runtime.format_date" = ["runtime"] := by decide
  have hnumber : readsOfPath "runtime.format_number" = ["runtime"] := by decide
  have htrue : readsOfPath "True" = [] := by decide
  -- dates and numbers are formatted by functions of one module
  cases hrequires : p.requiresDateFormatting with
  | true =>
    have hpassed : passedOptions p = [] := by rw [passedOptions, if_pos hrequires]
    unfold formatCall
    rw [hpassed, if_pos hrequires]
    split <;>
      simp [Argument.positional, Argument.named, Expr.reads, readsOfArguments, readsOfExprs,
        readsOfExprs_literals, reads_localeName, hparameter, hdate, htrue]
  | false =>
    unfold formatCall
    rw [if_neg (by simp [hrequires]), ← mem_readsOfArguments_formatOptions hrequires]
    simp [Argument.positional, Expr.reads, readsOfArguments, reads_localeName, hparameter, hnumber]

/-! ## Choices -/

section

variable {cs : List CompiledBranch} {x : String}

/-- The arguments for words are those words of `names` that have a value. -/
theorem mem_wordArguments {names : List String} {k : Option String} {e : Expr} :
    .mk k e ∈ wordArguments cs names ↔ ∃ w ∈ names, wordValue? cs w = some e ∧ k = some w := by
  simp only [wordArguments, List.mem_filterMap, Option.map_eq_some_iff, Argument.named,
    Argument.mk.injEq]
  constructor
  · rintro ⟨w, hw, value, hvalue, rfl, rfl⟩
    exact ⟨w, hw, hvalue, rfl⟩
  · rintro ⟨w, hw, hvalue, rfl⟩
    exact ⟨w, hw, e, hvalue, rfl, rfl⟩

/-- The value of a word (`wordValue?`) is that of a branch. -/
theorem exists_of_wordValue? {w : String} {e : Expr} (h : wordValue? cs w = some e) :
    ∃ c ∈ cs, c.key = .word w ∧ c.value = e := by
  rw [wordValue?] at h
  obtain ⟨c, hfind, rfl⟩ := Option.map_eq_some_iff.1 h
  exact ⟨c, List.mem_of_find?_eq_some hfind, by simpa using List.find?_some hfind, rfl⟩

/-- The arguments for words read (`readsOfArguments`) what the branches of these words read. -/
private theorem mem_readsOfArguments_words (hkeys : (cs.map CompiledBranch.key).Nodup)
    {names : List String} :
    x ∈ readsOfArguments (wordArguments cs names) ↔
      ∃ c ∈ cs, (∃ w ∈ names, c.key = .word w) ∧ x ∈ c.value.reads := by
  simp only [mem_readsOfArguments, mem_wordArguments]
  constructor
  · rintro ⟨k, e, ⟨w, hw, hvalue, -⟩, hx⟩
    obtain ⟨c, hc, hkey, rfl⟩ := exists_of_wordValue? hvalue
    exact ⟨c, hc, ⟨w, hw, hkey⟩, hx⟩
  · rintro ⟨c, hc, ⟨w, hw, hkey⟩, hx⟩
    exact ⟨some w, c.value, ⟨w, hw, wordValue?_of_mem hkeys hc hkey, rfl⟩, hx⟩

/-- The dictionary of exact numbers (`exactArguments`) reads what the branches of exact numbers
read. -/
private theorem mem_readsOfArguments_exact :
    x ∈ readsOfArguments (exactArguments cs) ↔
      ∃ c ∈ cs, (∃ n, c.key = .exact n) ∧ x ∈ c.value.reads := by
  have hpairs : x ∈ readsOfPairs (exactPairs cs) ↔
      ∃ c ∈ cs, (∃ n, c.key = .exact n) ∧ x ∈ c.value.reads := by
    simp only [mem_readsOfPairs, exactPairs, List.mem_filterMap, Option.map_eq_some_iff,
      Pair.mk.injEq]
    constructor
    · rintro ⟨k, e, ⟨c, hc, n, hn, rfl, rfl⟩, hx | hx⟩
      · simp [Expr.reads] at hx
      · cases hkey : c.key with
        | word w => simp [hkey, Key.value?] at hn
        | exact m => exact ⟨c, hc, ⟨m, hkey⟩, hx⟩
    · rintro ⟨c, hc, ⟨n, hkey⟩, hx⟩
      exact ⟨_, _, ⟨c, hc, n, by rw [hkey]; rfl, rfl, rfl⟩, .inr hx⟩
  rw [← hpairs, exactArguments]
  -- an empty dictionary is left out
  split
  · next hempty =>
    rw [List.isEmpty_iff.1 hempty]
    simp [readsOfArguments, readsOfPairs]
  · simp [Argument.named, readsOfArguments, Expr.reads]

/-- The dictionary of cases reads what the branches other than `other` read. -/
private theorem mem_readsOfPairs_cases :
    x ∈ readsOfPairs (casePairs cs) ↔ ∃ c ∈ cs, c.key ≠ .other ∧ x ∈ c.value.reads := by
  simp only [mem_readsOfPairs, casePairs, List.mem_filterMap]
  constructor
  · rintro ⟨k, e, ⟨c, hc, heq⟩, hx⟩
    split at heq
    · cases heq
    · next hother =>
      cases heq
      rcases hx with hx | hx
      · -- the key is written as a literal, which reads nothing
        simp [Expr.reads] at hx
      · exact ⟨c, hc, hother, hx⟩
  · rintro ⟨c, hc, hother, hx⟩
    exact ⟨_, _, ⟨c, hc, if_neg hother⟩, .inr hx⟩

/-- A plural reads (`reads`) its count, the locale of the accessor, and what its branches read. -/
theorem mem_reads_pluralExpr (hcs : IsChoice .plural cs) {p : String} (hp : IsVariable p)
    {e : Expr} (he : pluralExpr? p cs = some e) :
    x ∈ e.reads ↔ x = "runtime" ∨ x = p ∨ x = "self" ∨ ∃ c ∈ cs, x ∈ c.value.reads := by
  -- a branch of a plural has an exact number or a category
  have hbranches : x ∈ readsOfArguments (exactArguments cs) ∨
      x ∈ readsOfArguments (wordArguments cs pluralCategories) ↔ ∃ c ∈ cs, x ∈ c.value.reads := by
    rw [mem_readsOfArguments_exact, mem_readsOfArguments_words hcs.keys, ← exists_or]
    refine exists_congr fun c => ?_
    rw [← and_or_left, ← or_and_right]
    refine and_congr_right fun hc => and_iff_right ?_
    have hfits := hcs.fits c hc
    cases hkey : c.key with
    | exact n => exact .inl ⟨n, rfl⟩
    | word w =>
      rw [hkey] at hfits
      exact .inr ⟨w, hfits, rfl⟩
  have hfunction : readsOfPath "runtime.plural" = ["runtime"] := by decide
  rw [pluralExpr?_eq he, Expr.reads, readsOfArguments_append, readsOfArguments_append,
    ← hbranches]
  simp [Argument.positional, Expr.reads, readsOfArguments, reads_localeName,
    readsOfPath_variable hp, hfunction]

/-- A selection reads (`reads`) what it selects by and what its branches read. -/
theorem mem_reads_selectExpr (hcs : IsChoice .select cs) {p : String} (hp : IsVariable p)
    {e : Expr} (he : selectExpr? p cs = some e) :
    x ∈ e.reads ↔ x = "runtime" ∨ x = p ∨ ∃ c ∈ cs, x ∈ c.value.reads := by
  have hbranches : x ∈ readsOfPairs (casePairs cs) ∨
      x ∈ readsOfArguments (wordArguments cs ["other"]) ↔ ∃ c ∈ cs, x ∈ c.value.reads := by
    rw [mem_readsOfPairs_cases, mem_readsOfArguments_words hcs.keys, ← exists_or]
    refine exists_congr fun c => ?_
    rw [← and_or_left, ← or_and_right]
    refine and_congr_right fun hc => and_iff_right ?_
    -- each branch is among the cases or is `other`
    by_cases hother : c.key = .other
    · exact .inr ⟨"other", List.mem_cons_self, hother⟩
    · exact .inl hother
  have hfunction : readsOfPath "runtime.select" = ["runtime"] := by decide
  rw [selectExpr?_eq he, Expr.reads, readsOfArguments_append, ← hbranches]
  simp [Argument.positional, Expr.reads, readsOfArguments, readsOfPath_variable hp, hfunction]

end

end Parlance.Code
