import Parlance.Proofs.Code.Choosing
import Parlance.Proofs.Code.Coverage
import Parlance.Proofs.Results

/-!
# The generated expression means what the message means

The text of the expression of a message is the text of the message, rendered with the values of the
parameters that stand for its placeholders (`evaluate_messageExpr`). The expression evaluates all
branches and the message only one, so the expression may be refused a count that the message does
not look at, but never the other way round; where all counts have a category both have a text.
-/

namespace Parlance.Code

open Parlance.Grammar Parlance.Message Parlance.Number Parlance.Rendering

/-! ## Arguments of the expression and of the message -/

/-- What a message is rendered with where its expression is run: each placeholder has the value of
its parameter, and each reference or date the text of its expression. -/
def Environment.arguments (env : Environment) (scope : Scope) : Arguments where
  count name := env.count ((scope.parameter? name).getD "")
  choice name := env.choice ((scope.parameter? name).getD "")
  reference name := ((referenceExpr? scope name).map env.text).getD ""
  argument name kind skeleton := ((argumentExpr? scope name kind skeleton).map env.text).getD ""

variable {scope : Scope} {env : Environment}

/-- A reference evaluates (`evaluate`) to the text that its name stands for. -/
private theorem evaluate_referenceExpr {name : String} {e : Expr}
    (h : referenceExpr? scope name = some e) :
    evaluate env e = .ok ((env.arguments scope).reference name) := by
  have htext : (env.arguments scope).reference name = env.text e := by
    simp [Environment.arguments, h]
  rw [htext]
  rw [referenceExpr?] at h
  obtain ⟨p, -, hp⟩ := Option.bind_eq_some_iff.1 h
  obtain ⟨parameter, -, rfl⟩ := Option.map_eq_some_iff.1 hp
  -- a name and a call of `str` both have the text of the environment
  split
  · rw [evaluate]
  · split
    · rw [evaluate]
    · exact evaluate_call (by decide) (by decide) _ _

/-- A date or time evaluates (`evaluate`) to its formatted text. -/
private theorem evaluate_argumentExpr {name : String} {kind : ArgumentKind}
    {skeleton : Option String} {e : Expr} (h : argumentExpr? scope name kind skeleton = some e) :
    evaluate env e = .ok ((env.arguments scope).argument name kind skeleton) := by
  have htext : (env.arguments scope).argument name kind skeleton = env.text e := by
    simp [Environment.arguments, h]
  rw [htext]
  unfold argumentExpr? at h
  obtain ⟨parameter, -, rfl⟩ := Option.map_eq_some_iff.1 h
  split <;> exact evaluate_call (by decide) (by decide) _ _

/-! ## Branches that are evaluated -/

/-- Whether the expression of every branch has a text, and which. -/
def HaveTexts (env : Environment) (cs : List CompiledBranch) (text : CompiledBranch → String) :
    Prop :=
  ∀ c ∈ cs, evaluate env c.value = .ok (text c)

/-- The keys and texts of compiled branches. -/
def entriesOf (cs : List CompiledBranch) (text : CompiledBranch → String) :
    List (Key × String) :=
  cs.map fun c => (c.key, text c)

/-- The form (`formOf`) of a word is the text of the branch that has the word. -/
private theorem formOf_entriesOf (cs : List CompiledBranch) (text : CompiledBranch → String)
    (w : String) :
    formOf (entriesOf cs text) (.word w) =
      (cs.find? (·.key == .word w)).map text := by
  simp [formOf, entriesOf, List.find?_map, Function.comp_def]

section

variable {cs : List CompiledBranch} {text : CompiledBranch → String}

/-- If all branches have texts, the `rest` of them do. -/
theorem HaveTexts.tail {c : CompiledBranch} {rest : List CompiledBranch}
    (h : HaveTexts env (c :: rest) text) : HaveTexts env rest text :=
  fun d hd => h d (List.mem_cons_of_mem _ hd)

/-- The dictionary of exact numbers evaluates to the entries (`evaluateEntries`) with exact keys. -/
private theorem evaluateEntries_exactPairs (h : HaveTexts env cs text) :
    evaluateEntries env (exactPairs cs) = .ok (exactEntries (entriesOf cs text)) := by
  induction cs with
  | nil => rfl
  | cons c rest ih =>
    have hc := h c List.mem_cons_self
    have hrest := ih h.tail
    obtain ⟨key, value⟩ := c
    -- branches of words are left out of the dictionary
    cases key with
    | exact n =>
      have hpairs : exactPairs (⟨.exact n, value⟩ :: rest) =
          .mk (.number n) value :: exactPairs rest := rfl
      rw [hpairs, evaluateEntries, hc, hrest]
      rfl
    | word w => exact hrest

/-- The dictionary of cases evaluates to the entries other than `other`. -/
private theorem evaluateEntries_casePairs (h : HaveTexts env cs text)
    (hwords : ∀ c ∈ cs, ∃ w, c.key = .word w) :
    evaluateEntries env (casePairs cs) = .ok (caseEntries (entriesOf cs text)) := by
  induction cs with
  | nil => rfl
  | cons c rest ih =>
    have hc := h c List.mem_cons_self
    have hrest := ih h.tail fun d hd => hwords d (List.mem_cons_of_mem _ hd)
    obtain ⟨w, hw⟩ := hwords c List.mem_cons_self
    obtain ⟨key, value⟩ := c
    subst hw
    -- `other` is left out of both sides
    by_cases hother : Key.word w = .other
    · have hentries : caseEntries (entriesOf (⟨.word w, value⟩ :: rest) text) =
          caseEntries (entriesOf rest text) := List.filter_cons_of_neg (by simp [hother])
      rw [casePairs, List.filterMap_cons_none (by simp [hother]), ← casePairs, hrest, hentries]
    · have hpairs : casePairs (⟨.word w, value⟩ :: rest) =
          .mk (.literal w) value :: casePairs rest := by
        rw [casePairs, List.filterMap_cons_some (by rw [if_neg hother])]
        rfl
      have hentries : caseEntries (entriesOf (⟨.word w, value⟩ :: rest) text) =
          (.word w, text ⟨.word w, value⟩) :: caseEntries (entriesOf rest text) :=
        List.filter_cons_of_pos (by simpa using hother)
      rw [hpairs, evaluateEntries, hc, hrest, hentries]
      rfl

/-- The arguments for words evaluate to the forms of the `names` that have one. -/
private theorem evaluateNamed_wordArguments (h : HaveTexts env cs text) {names : List String}
    (hnames : "exact" ∉ names) :
    evaluateNamed env (wordArguments cs names) =
      .ok ([], names.filterMap fun w => (formOf (entriesOf cs text) (.word w)).map (w, ·)) := by
  induction names with
  | nil => simp [wordArguments, evaluateNamed]
  | cons w rest ih =>
    obtain ⟨hw, hrest⟩ := not_or.1 (mt List.mem_cons.2 hnames)
    have ih := ih hrest
    rw [List.filterMap_cons, formOf_entriesOf]
    -- a word without a branch makes no argument
    cases hfind : cs.find? (·.key == .word w) with
    | none =>
      have hnone : wordValue? cs w = none := by rw [wordValue?, hfind]; rfl
      rw [wordArguments, List.filterMap_cons, hnone]
      exact ih
    | some c =>
      have hsome : wordValue? cs w = some c.value := by rw [wordValue?, hfind]; rfl
      rw [wordArguments, List.filterMap_cons, hsome, Option.map_some, ← wordArguments,
        evaluateNamed_text (Ne.symm hw), h c (List.mem_of_find?_eq_some hfind), ih]
      rfl

end

/-! ## Branches whose choice is evaluated -/

/-- The values of a dictionary that is evaluated (`evaluateEntries`) have texts. -/
private theorem exists_text_of_entries {pairs : List Pair} {r : List (Key × String)}
    (h : evaluateEntries env pairs = .ok r) {key value : Expr} (hmem : .mk key value ∈ pairs) :
    ∃ s, evaluate env value = .ok s := by
  induction pairs generalizing r with
  | nil => cases hmem
  | cons p rest ih =>
    obtain ⟨k, v⟩ := p
    -- a key that is no literal is refused
    have hparts : (∃ s, evaluate env v = .ok s) ∧ ∃ r', evaluateEntries env rest = .ok r' := by
      cases k
      case number | literal =>
        rw [evaluateEntries] at h
        obtain ⟨s, hs, hmore⟩ := bind_eq_ok_iff.1 h
        obtain ⟨r', hr, -⟩ := bind_eq_ok_iff.1 hmore
        exact ⟨⟨s, hs⟩, r', hr⟩
      all_goals simp [evaluateEntries] at h
    rcases List.mem_cons.1 hmem with heq | hmem
    · cases heq
      exact hparts.1
    · exact ih hparts.2.choose_spec hmem

/-- The values of arguments by keyword (`wordArguments`) that are evaluated have texts. -/
private theorem exists_text_of_named {cs : List CompiledBranch} {names : List String}
    (hnames : "exact" ∉ names) {r : List (Key × String) × Assoc String}
    (h : evaluateNamed env (wordArguments cs names) = .ok r) {w : String} (hw : w ∈ names)
    {value : Expr} (hvalue : wordValue? cs w = some value) :
    ∃ s, evaluate env value = .ok s := by
  induction names generalizing r with
  | nil => cases hw
  | cons v rest ih =>
    obtain ⟨hv, hrest⟩ := not_or.1 (mt List.mem_cons.2 hnames)
    rw [wordArguments, List.filterMap_cons] at h
    -- the word in question is the first, or comes among the rest
    cases hword : wordValue? cs v with
    | none =>
      rw [hword] at h
      rcases List.mem_cons.1 hw with rfl | hw
      · simp [hvalue] at hword
      · exact ih hrest h hw
    | some e =>
      rw [hword, Option.map_some, ← wordArguments, evaluateNamed_text (Ne.symm hv)] at h
      obtain ⟨s, hs, hmore⟩ := bind_eq_ok_iff.1 h
      obtain ⟨r', hr, -⟩ := bind_eq_ok_iff.1 hmore
      rcases List.mem_cons.1 hw with rfl | hw
      · obtain rfl : e = value := by simpa [hvalue] using hword.symm
        exact ⟨s, hs⟩
      · exact ih hrest hr hw

/-! ## Plurals and selections -/

variable {cs : List CompiledBranch} {text : CompiledBranch → String}

/-- The entries (`entriesOf`) of compiled branches have their keys. -/
private theorem keys_entriesOf (cs : List CompiledBranch) (text : CompiledBranch → String) :
    (entriesOf cs text).map (·.1) = cs.map CompiledBranch.key := by
  simp [entriesOf, Function.comp_def]

/-- The argument `exact` evaluates before the `rest`, and to nothing if it is left out. -/
private theorem evaluateNamed_exactArguments (rest : List Argument) :
    evaluateNamed env (exactArguments cs ++ rest) =
      (evaluateEntries env (exactPairs cs)).bind fun exact =>
        (evaluateNamed env rest).bind fun r => .ok (exact ++ r.1, r.2) := by
  rw [exactArguments]
  split
  · next hempty =>
    rw [List.isEmpty_iff.1 hempty, List.nil_append, evaluateEntries]
    cases evaluateNamed env rest <;> rfl
  · exact evaluateNamed_exact _ _

/-- A plural evaluates (`evaluate`) its exact branches and its words, and chooses among them. -/
private theorem evaluate_pluralExpr {p : String} {e : Expr} (h : pluralExpr? p cs = some e) :
    evaluate env e =
      (evaluateNamed env (exactArguments cs ++ wordArguments cs pluralCategories)).bind fun r =>
        pluralCall env.plurals env.locale (env.count p) r.1 r.2 := by
  rw [pluralExpr?_eq h]
  exact evaluate_plural true p _

/-- A selection evaluates its cases and then `other`, and chooses among them. -/
private theorem evaluate_selectExpr (env : Environment) {p : String} {e : Expr}
    (h : selectExpr? p cs = some e) :
    ∃ other, wordValue? cs "other" = some other ∧
      evaluate env e = (evaluateEntries env (casePairs cs)).bind fun cases =>
        (evaluate env other).bind fun o => .ok ((env.choice p).choose (caseForms cases) o) := by
  rw [selectExpr?] at h
  obtain ⟨other, hother, rfl⟩ := Option.map_eq_some_iff.1 h
  exact ⟨other, hother, evaluate_select true p _ _⟩

/-- A plural (`pluralExpr?`) that has a text evaluates all its branches. -/
private theorem exists_texts_of_plural (hcs : IsChoice .plural cs) {p s : String} {e : Expr}
    (he : pluralExpr? p cs = some e) (h : evaluate env e = .ok s) :
    ∀ c ∈ cs, ∃ t, evaluate env c.value = .ok t := by
  -- all that the call holds is evaluated before it chooses
  rw [evaluate_pluralExpr he, evaluateNamed_exactArguments] at h
  obtain ⟨r, hr, -⟩ := bind_eq_ok_iff.1 h
  obtain ⟨exact, hexact, hmore⟩ := bind_eq_ok_iff.1 hr
  obtain ⟨r', hwords, -⟩ := bind_eq_ok_iff.1 hmore
  intro c hc
  cases hkey : c.key with
  | exact n =>
    have hmem : .mk (.number n) c.value ∈ exactPairs cs :=
      List.mem_filterMap.2 ⟨c, hc, by simp [hkey, Key.value?]⟩
    exact exists_text_of_entries hexact hmem
  | word w =>
    have hw : w ∈ pluralCategories := by
      have hfits := hcs.fits c hc
      rwa [hkey] at hfits
    exact exists_text_of_named (by decide) hwords hw (wordValue?_of_mem hcs.keys hc hkey)

/-- A selection (`selectExpr?`) that has a text evaluates all its branches. -/
private theorem exists_texts_of_select (hcs : IsChoice .select cs) {p s : String} {e : Expr}
    (he : selectExpr? p cs = some e) (h : evaluate env e = .ok s) :
    ∀ c ∈ cs, ∃ t, evaluate env c.value = .ok t := by
  obtain ⟨other, hother, heval⟩ := evaluate_selectExpr env he
  rw [heval] at h
  obtain ⟨cases, hcases, hmore⟩ := bind_eq_ok_iff.1 h
  obtain ⟨o, ho, -⟩ := bind_eq_ok_iff.1 hmore
  intro c hc
  -- the text of `other` is the last argument, and the other texts are in the dictionary
  by_cases hkey : c.key = .other
  · have hvalue := wordValue?_of_mem hcs.keys hc hkey
    obtain rfl : c.value = other := by simpa [hvalue] using hother
    exact ⟨o, ho⟩
  · have hmem : .mk (.literal c.key.text) c.value ∈ casePairs cs :=
      List.mem_filterMap.2 ⟨c, hc, by simp [hkey]⟩
    exact exists_text_of_entries hcases hmem

/-- Where all branches have texts, a plural chooses among them (`pluralCall`). -/
private theorem evaluate_plural_of_texts {p : String} {e : Expr} (he : pluralExpr? p cs = some e)
    (h : HaveTexts env cs text) :
    evaluate env e = pluralCall env.plurals env.locale (env.count p)
      (exactEntries (entriesOf cs text)) (wordTexts (entriesOf cs text)) := by
  rw [evaluate_pluralExpr he, evaluateNamed_exactArguments, evaluateEntries_exactPairs h,
    evaluateNamed_wordArguments h (by decide)]
  simp [Except.bind, wordTexts]

/-- Where all branches have texts (`HaveTexts`), a selection chooses among them. -/
private theorem evaluate_select_of_texts (hcs : IsChoice .select cs) {p : String} {e : Expr}
    (he : selectExpr? p cs = some e) (h : HaveTexts env cs text) :
    ∃ s, evaluate env e = .ok s ∧
      wordFormOf (formsOf (entriesOf cs text)) (env.choice p).key = .ok s := by
  obtain ⟨other, hother, heval⟩ := evaluate_selectExpr env he
  -- the keys of a selection are words
  have hwords : ∀ c ∈ cs, ∃ w, c.key = .word w := by
    intro c hc
    have hfits := hcs.fits c hc
    cases hkey : c.key with
    | exact n => simp [hkey, KeyFits] at hfits
    | word w => exact ⟨w, rfl⟩
  obtain ⟨c, hfind, rfl⟩ := Option.map_eq_some_iff.1 hother
  have hc := h c (List.mem_of_find?_eq_some hfind)
  have hform : formOf (entriesOf cs text) (.word "other") = some (text c) := by
    rw [formOf_entriesOf, hfind]
    rfl
  refine ⟨_, ?_, choose_of_entries hform (env.choice p)⟩
  rw [heval, evaluateEntries_casePairs h hwords, hc]
  rfl

/-! ## Expressions and what they stand for -/

/-- Whether each name that chooses the branch of a plural is given a count. -/
def HaveCounts (env : Environment) (scope : Scope) (counted : String → Prop) : Prop :=
  ∀ name, counted name → IsCount env.plurals env.locale ((env.arguments scope).count name)

/-- The names that choose the branches of the plurals in a message. -/
def Counted (m : Message) (name : String) : Prop := Occurs m name (.role .plural)

/-- Whether an evaluation means what a rendering does: it has no other text, and it has one if the
names in question are given counts. -/
structure Means (env : Environment) (scope : Scope) (counted : String → Prop)
    (evaluated : Except EvaluationFault String) (rendered : Except NumberFault String) : Prop where
  sound : ∀ s, evaluated = .ok s → rendered = .ok s
  total : HaveCounts env scope counted → ∃ s, evaluated = .ok s

/-- Whether the compiled branches of a choice mean what its branches do. -/
def BranchesMean (env : Environment) (scope : Scope) (counted : String → Prop)
    (rendered : List (Key × Except NumberFault String)) (cs : List CompiledBranch) : Prop :=
  List.Forall₂ (fun r c => r.1 = c.key ∧ Means env scope counted (evaluate env c.value) r.2)
    rendered cs

/-- More counts only help. -/
theorem Means.mono {counted more : String → Prop} {evaluated : Except EvaluationFault String}
    {rendered : Except NumberFault String} (h : Means env scope counted evaluated rendered)
    (hmore : ∀ name, counted name → more name) : Means env scope more evaluated rendered :=
  ⟨h.sound, fun hcounts => h.total fun name hname => hcounts name (hmore name hname)⟩

/-- More counts only help. -/
theorem BranchesMean.mono {counted more : String → Prop}
    {rendered : List (Key × Except NumberFault String)}
    (h : BranchesMean env scope counted rendered cs) (hmore : ∀ name, counted name → more name) :
    BranchesMean env scope more rendered cs :=
  h.imp fun _ _ hrc => ⟨hrc.1, hrc.2.mono hmore⟩

/-- Branches that are evaluated to texts (`HaveTexts`) are rendered to them. -/
theorem BranchesMean.eq_formsOf {counted : String → Prop}
    {rendered : List (Key × Except NumberFault String)}
    (h : BranchesMean env scope counted rendered cs) (htexts : HaveTexts env cs text) :
    rendered = formsOf (entriesOf cs text) := by
  induction h with
  | nil => rfl
  | @cons r c rs cs hrc _ ih =>
    have hr := hrc.2.sound _ (htexts c List.mem_cons_self)
    rw [ih htexts.tail]
    exact congrArg (· :: _) (Prod.ext hrc.1 hr)

/-- Where the counts are given (`HaveCounts`), all branches have texts. -/
theorem BranchesMean.exists_texts {counted : String → Prop}
    {rendered : List (Key × Except NumberFault String)}
    (h : BranchesMean env scope counted rendered cs) (hcounts : HaveCounts env scope counted) :
    ∀ c ∈ cs, ∃ t, evaluate env c.value = .ok t := by
  induction h with
  | nil => simp
  | cons hrc _ ih => exact List.forall_mem_cons.2 ⟨hrc.2.total hcounts, ih⟩

/-- The text of a compiled branch, if it has one. -/
def textOf (env : Environment) (c : CompiledBranch) : String :=
  match evaluate env c.value with
  | .ok s => s
  | .error _ => ""

/-- Values that all evaluate to something have the texts that `textOf` picks. -/
private theorem haveTexts_textOf (h : ∀ c ∈ cs, ∃ t, evaluate env c.value = .ok t) :
    HaveTexts env cs (textOf env) := by
  intro c hc
  obtain ⟨t, ht⟩ := h c hc
  rw [textOf, ht]

/-- The compiled branches of a plural (`IsPlural`) have the entries of one. -/
private theorem isPlural_entriesOf (hcs : IsChoice .plural cs) (text : CompiledBranch → String) :
    IsPlural (entriesOf cs text) := by
  refine ⟨keys_entriesOf cs text ▸ hcs.keys, keys_entriesOf cs text ▸ hcs.other, fun w hw => ?_⟩
  rw [keys_entriesOf] at hw
  obtain ⟨c, hc, hkey⟩ := List.mem_map.1 hw
  have hfits := hcs.fits c hc
  rwa [hkey] at hfits

/-- A plural means (`Means`) what its branches mean for the count. -/
private theorem means_plural {counted : String → Prop} {name p : String} {e : Expr}
    {rendered : List (Key × Except NumberFault String)} (hcs : IsChoice .plural cs)
    (hp : scope.parameter? name = some p) (he : pluralExpr? p cs = some e)
    (hname : counted name) (h : BranchesMean env scope counted rendered cs) :
    Means env scope counted (evaluate env e)
      (pluralFormOf env.plurals env.locale ((env.arguments scope).count name) rendered) := by
  have hcount : (env.arguments scope).count name = env.count p := by
    simp [Environment.arguments, hp]
  have hentries := isPlural_entriesOf hcs (textOf env)
  constructor
  · intro s hs
    -- the call evaluates every branch, so each has a text, and the branches mean those texts
    have htexts := haveTexts_textOf (exists_texts_of_plural hcs he hs)
    rw [evaluate_plural_of_texts he htexts] at hs
    rw [hcount, h.eq_formsOf htexts]
    exact pluralFormOf_of_pluralCall hentries hs
  · intro hcounts
    have hown := hcounts name hname
    rw [hcount] at hown
    have htexts := haveTexts_textOf (h.exists_texts hcounts)
    rw [evaluate_plural_of_texts he htexts]
    exact exists_pluralCall hentries hown

/-- A selection means (`Means`) what its branches mean for the choice. -/
private theorem means_select {counted : String → Prop} {name p : String} {e : Expr}
    {rendered : List (Key × Except NumberFault String)} (hcs : IsChoice .select cs)
    (hp : scope.parameter? name = some p) (he : selectExpr? p cs = some e)
    (h : BranchesMean env scope counted rendered cs) :
    Means env scope counted (evaluate env e)
      (wordFormOf rendered ((env.arguments scope).choice name).key) := by
  have hchoice : (env.arguments scope).choice name = env.choice p := by
    simp [Environment.arguments, hp]
  rw [hchoice]
  constructor
  · -- a text of the choice is a text of every branch, so the forms are the same on both sides
    intro s hs
    have htexts := haveTexts_textOf (exists_texts_of_select hcs he hs)
    obtain ⟨t, ht, hform⟩ := evaluate_select_of_texts hcs he htexts
    rw [h.eq_formsOf htexts, hform]
    exact congrArg Except.ok (Except.ok.inj (ht.symm.trans hs))
  · -- and with counts for all plurals inside, every branch has one
    intro hcounts
    have htexts := haveTexts_textOf (h.exists_texts hcounts)
    obtain ⟨t, ht, -⟩ := evaluate_select_of_texts hcs he htexts
    exact ⟨t, ht⟩

/-! ## Messages -/

variable {texts : String → Prop}

mutual

/-- The expression of a node means (`Means`) what the node does. -/
theorem means_node : ∀ (n : Node) (e : Expr), WellFormedNode texts n →
    nodeExpr? scope n = some e →
    Means env scope (Counted [n]) (evaluate env e)
      (renderNode env.plurals env.locale (env.arguments scope) n)
  | .text value _, e, _, he => by
    rw [nodeExpr?] at he
    obtain rfl := Option.some.inj he
    rw [evaluate, renderNode]
    exact ⟨fun s hs => congrArg Except.ok (Except.ok.inj hs), fun _ => ⟨value, rfl⟩⟩
  | .reference name _, e, _, he => by
    rw [nodeExpr?] at he
    rw [evaluate_referenceExpr he, renderNode]
    exact ⟨fun s hs => congrArg Except.ok (Except.ok.inj hs), fun _ => ⟨_, rfl⟩⟩
  | .argument name kind skeleton _, e, _, he => by
    rw [nodeExpr?] at he
    rw [evaluate_argumentExpr he, renderNode]
    exact ⟨fun s hs => congrArg Except.ok (Except.ok.inj hs), fun _ => ⟨_, rfl⟩⟩
  | .choice kind name branches span, e, hwell, he => by
    rw [WellFormedNode] at hwell
    obtain ⟨-, hbranches, hkeys, hother⟩ := hwell
    rw [nodeExpr?] at he
    obtain ⟨p, hp, hmore⟩ := Option.bind_eq_some_iff.1 he
    obtain ⟨cs, hcs, hexpr⟩ := Option.bind_eq_some_iff.1 hmore
    have hchoice := isChoice_of_branchExprs hbranches hkeys hother hcs
    -- what is counted in a branch is counted in the choice
    have hmean : BranchesMean env scope (Counted [.choice kind name branches span])
        (renderBranches env.plurals env.locale (env.arguments scope) branches) cs :=
      (means_branches kind branches cs hbranches hcs).mono
        fun _ hcounted => occurs_choice_iff.2 (.inr hcounted)
    cases kind with
    | plural =>
      rw [renderNode]
      exact means_plural hchoice hp hexpr (occurs_choice_iff.2 (.inl rfl)) hmean
    | select =>
      rw [renderNode]
      exact means_select hchoice hp hexpr hmean

/-- The expressions of branches (`branchExprs?`) mean what the branches do. -/
theorem means_branches (kind : ChoiceKind) : ∀ (branches : List Branch)
    (cs : List CompiledBranch), WellFormedBranches texts kind branches →
    branchExprs? scope branches = some cs →
    BranchesMean env scope (fun name => ∃ b ∈ branches, Counted b.message name)
      (renderBranches env.plurals env.locale (env.arguments scope) branches) cs
  | [], cs, _, hcs => by
    rw [branchExprs?] at hcs
    obtain rfl := Option.some.inj hcs
    rw [renderBranches]
    exact .nil
  | .mk key message span :: rest, cs, hwell, hcs => by
    obtain ⟨-, hmessage, hrest⟩ := (wellFormedBranches_cons ..).1 hwell
    rw [branchExprs?] at hcs
    obtain ⟨es, hes, hmore⟩ := Option.bind_eq_some_iff.1 hcs
    obtain ⟨cs', hcs', rfl⟩ := Option.map_eq_some_iff.1 hmore
    have hhead := means_nodes message es hmessage.1 hes
    have htail := means_branches kind rest cs' hrest hcs'
    rw [renderBranches]
    refine .cons ⟨rfl, ?_⟩ (htail.mono fun _ ⟨b, hb, hname⟩ => ⟨b, .tail _ hb, hname⟩)
    -- the value of the branch is the sum of its parts
    rw [evaluate_joinAll]
    exact hhead.mono fun _ hname => ⟨_, List.mem_cons_self, hname⟩

/-- The expressions of nodes mean (`Means`) together what the nodes do. -/
theorem means_nodes : ∀ (nodes : List Node) (es : List Expr), WellFormedNodes texts nodes →
    nodeExprs? scope nodes = some es →
    Means env scope (Counted nodes) (evaluateAll env es)
      (render env.plurals env.locale (env.arguments scope) nodes)
  | [], es, _, hes => by
    rw [nodeExprs?] at hes
    obtain rfl := Option.some.inj hes
    rw [evaluateAll, render]
    exact ⟨fun s hs => congrArg Except.ok (Except.ok.inj hs), fun _ => ⟨"", rfl⟩⟩
  | n :: rest, es, hwell, hes => by
    obtain ⟨hn, hrest⟩ := (wellFormedNodes_cons _ _).1 hwell
    rw [nodeExprs?] at hes
    obtain ⟨e, he, hmore⟩ := Option.bind_eq_some_iff.1 hes
    obtain ⟨es', hes', rfl⟩ := Option.map_eq_some_iff.1 hmore
    have hhead := means_node n e hn he
    have htail := means_nodes rest es' hrest hes'
    rw [evaluateAll, render]
    constructor
    · -- texts are joined on both sides in the same order
      intro s hs
      obtain ⟨a, ha, hmore⟩ := bind_eq_ok_iff.1 hs
      obtain ⟨b, hb, hab⟩ := bind_eq_ok_iff.1 hmore
      rw [hhead.sound a ha, htail.sound b hb]
      exact congrArg Except.ok (Except.ok.inj hab)
    · intro hcounts
      obtain ⟨a, ha⟩ := hhead.total fun name hname => hcounts name (occurs_cons_iff.2 (.inl hname))
      obtain ⟨b, hb⟩ := htail.total fun name hname => hcounts name (occurs_cons_iff.2 (.inr hname))
      exact ⟨a ++ b, by rw [ha, hb]; rfl⟩

end

/-- The expression of a message that is read has the text that the message is rendered to, if it
has a text; and it has one if every name that chooses the branch of a plural is given a count. This
is so whatever locale data has on plurals: a name that is none of the six categories counts as
`other` on both sides. -/
theorem evaluate_messageExpr {options : ReadingOptions} {source : String} {m : Message}
    (hparse : parse options source = .ok m) (scope : Scope)
    (hcovers : Covers scope (messageNames m)) (env : Environment) :
    ∃ e, messageExpr? scope m = some e ∧
      (∀ s, evaluate env e = .ok s →
        render env.plurals env.locale (env.arguments scope) m = .ok s) ∧
      ((∀ name, Occurs m name (.role .plural) →
          IsCount env.plurals env.locale ((env.arguments scope).count name)) →
        ∃ s, evaluate env e = .ok s ∧
          render env.plurals env.locale (env.arguments scope) m = .ok s) := by
  have hwell := (wellFormed_of_parse hparse).1
  obtain ⟨es, hes⟩ := exists_nodeExprs? m hwell.1 hcovers
  have hmean : Means env scope (Counted m) (evaluateAll env es)
      (render env.plurals env.locale (env.arguments scope) m) := means_nodes m es hwell.1 hes
  rw [← evaluate_joinAll] at hmean
  refine ⟨joinAll es, by rw [messageExpr?, hes]; rfl, hmean.sound, fun hcounts => ?_⟩
  obtain ⟨s, hs⟩ := hmean.total hcounts
  exact ⟨s, hs, hmean.sound s hs⟩

/-- A scope with a count and a text. -/
def guestScope : Scope where
  placeholders :=
    [⟨.bare "n", .int, true, false, false, false, false⟩,
     ⟨.bare "g", .string, false, true, false, false, false⟩]
  parameters := [("n", "n"), ("g", "g")]
  formats := true

/-- A plural with a nested selection. -/
def guestMessage : Message :=
  [.choice .plural "n"
    [.mk (.exact 2) [.text "pair" ⟨13, 17⟩] ⟨10, 18⟩,
     .mk (.word "one") [.choice .select "g"
      [.mk (.word "a") [.text "A" ⟨34, 35⟩] ⟨32, 36⟩,
       .mk .other [.reference "g" ⟨42, 45⟩] ⟨36, 46⟩] ⟨22, 47⟩] ⟨18, 48⟩,
     .mk .other [] ⟨48, 55⟩] ⟨0, 56⟩]

/-- One guest, who is `a`, where one thing is `one` and everything else `other`. -/
def guestEnvironment : Environment where
  plurals code := if code = "en" then some fun n => .ok (if n.eqInt 1 then "one" else "other")
    else none
  locale := "en"
  count _ := .integer 1
  choice _ := .text "a"
  text _ := ""

/-- An exact branch, and a selection inside the branch of `one`. -/
theorem evaluate_messageExpr_guestMessage :
    parse .standard "{n,plural,=2{pair}one{{g,select,a{A}other{{g}}}}other{}}" =
      .ok guestMessage ∧
    Covers guestScope (messageNames guestMessage) ∧
    IsCount guestEnvironment.plurals "en" (.integer 1) ∧
    ∃ e, messageExpr? guestScope guestMessage = some e ∧
      evaluate guestEnvironment e = .ok "A" := by
  have hparse : parse .standard "{n,plural,=2{pair}one{{g,select,a{A}other{{g}}}}other{}}" =
      .ok guestMessage := by decide +kernel
  have hnames : messageNames guestMessage = ["n", "g", "g"] := by decide +kernel
  have hcovers : Covers guestScope (messageNames guestMessage) := by
    intro name hname
    rw [hnames] at hname
    have hor : name = "n" ∨ name = "g" := by simpa using hname
    rcases hor with rfl | rfl <;> exact ⟨⟨_, rfl⟩, _, rfl⟩
  have hcount : IsCount guestEnvironment.plurals "en" (.integer 1) := ⟨rfl, "one", rfl⟩
  obtain ⟨e, he, -, htotal⟩ := evaluate_messageExpr hparse guestScope hcovers guestEnvironment
  obtain ⟨s, hs, hrender⟩ := htotal fun _ _ => hcount
  have htext : render guestEnvironment.plurals "en" (guestEnvironment.arguments guestScope)
      guestMessage = .ok "A" := by decide +kernel
  -- rendering settles which text it is
  obtain rfl : "A" = s := Except.ok.inj (htext.symm.trans hrender)
  exact ⟨hparse, hcovers, hcount, e, he, hs⟩

end Parlance.Code
