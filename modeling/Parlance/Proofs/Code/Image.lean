import Parlance.Proofs.Code.Coverage
import Parlance.Proofs.Code.Denotation
import Parlance.Proofs.Message.Rendering

/-!
# The tree that a message stands for

`image` gives the tree of a message part by part, with no expression and no text in between: a
message is the sum of its nodes, a text is a string, and a plural and a selection are calls whose
arguments are the images of their branches. The expression of a message is readable and has this
tree (`tree_messageExpr`).
-/

namespace Parlance.Code

open Parlance.Grammar Parlance.Number Parlance.Rendering Parlance.Text

/-! ## Images -/

/-- The parameter of a name; a name that the scope lacks stands for itself. -/
def Scope.parameterOf (scope : Scope) (name : String) : String :=
  (scope.parameter? name).getD name

/-- A function of the module that the generated module imports. -/
def runtimeTree (function : String) : Tree := .attribute (.name "runtime") function

/-- The name of the locale in an accessor. -/
def localeTree : Tree := .attribute (.name "self") "locale_name"

/-- The image of a reference: its local variable if it is formatted, and else its parameter, made a
string if it is none. -/
def referenceTree (scope : Scope) (name : String) : Tree :=
  let parameter := scope.parameterOf name
  if (scope.placeholder? name).any scope.formatsPlaceholder then .name (formattedName parameter)
  else if (scope.placeholder? name).any (·.type == .string) then .name parameter
  else .call (.name "str") [.name parameter] []

/-- The image of a date or time argument. -/
def argumentTree (scope : Scope) (name : String) (kind : ArgumentKind)
    (skeleton : Option String) : Tree :=
  let parameter := Tree.name (scope.parameterOf name)
  if scope.formats then
    .call (runtimeTree "format_datetime_skeleton")
      [parameter, (skeleton.map .text).getD (.constant "None"), localeTree]
      (if skeleton = none ∧ kind = .time then [("time", .constant "True")] else [])
  else .call (.name "str") [parameter] []

/-- The sum of trees; of none it is the empty string. -/
def sumOf : List Tree → Tree
  | [] => .text ""
  | first :: rest => rest.foldl .sum first

/-- The forms of exact numbers, in order. -/
def exactTrees (forms : List (Key × Tree)) : List (Tree × Tree) :=
  forms.filterMap fun form => form.1.value?.map fun n => (.number n, form.2)

/-- The forms of words other than `other`, in order. -/
def caseTrees (forms : List (Key × Tree)) : List (Tree × Tree) :=
  forms.filterMap fun form => if form.1 = .other then none else some (.text form.1.text, form.2)

/-- The forms of some words, in the order of the words. -/
def wordTrees (forms : List (Key × Tree)) (words : List String) : List (String × Tree) :=
  words.filterMap fun w => (formOf forms (.word w)).map (w, ·)

/-- The image of a plural: a dictionary of exact numbers if there are any, and the categories that
have a branch, with `other` at the end. -/
def pluralTree (parameter : String) (forms : List (Key × Tree)) : Tree :=
  .call (runtimeTree "plural") [.name parameter, localeTree]
    ((if (exactTrees forms).isEmpty then [] else [("exact", .dict (exactTrees forms))]) ++
      wordTrees forms pluralCategories)

/-- The image of a selection: a dictionary of cases, and `other`. -/
def selectTree (parameter : String) (forms : List (Key × Tree)) : Tree :=
  .call (runtimeTree "select") [.name parameter, .dict (caseTrees forms)]
    (wordTrees forms ["other"])

section

variable (scope : Scope)

mutual

/-- The image of a node. -/
def imageNode : Node → Tree
  | .text value _ => .text value
  | .reference name _ => referenceTree scope name
  | .argument name kind skeleton _ => argumentTree scope name kind skeleton
  | .choice .plural name branches _ =>
    pluralTree (scope.parameterOf name) (imageBranches branches)
  | .choice .select name branches _ =>
    selectTree (scope.parameterOf name) (imageBranches branches)

/-- The keys of branches with the images of their messages. -/
def imageBranches : List Branch → List (Key × Tree)
  | [] => []
  | .mk key message _ :: rest => (key, sumOf (imageNodes message)) :: imageBranches rest

/-- The images of nodes. -/
def imageNodes : List Node → List Tree
  | [] => []
  | n :: rest => imageNode n :: imageNodes rest

end

/-- The image of a message. -/
def image (m : Message) : Tree := sumOf (imageNodes scope m)

end

/-! ## Scopes with variables -/

/-- Whether a scope has a placeholder and a variable for each of some names. -/
def Declares (scope : Scope) (names : List String) : Prop :=
  Covers scope names ∧ ∀ name ∈ names, IsVariable (scope.parameterOf name)

/-- A scope that declares `names` declares fewer of them. -/
theorem Declares.subset {scope : Scope} {names some : List String} (h : Declares scope names)
    (hsome : some ⊆ names) : Declares scope some :=
  ⟨h.1.subset hsome, fun name hname => h.2 name (hsome hname)⟩

/-- The `parameter` of a declared name is the one that bodies use, and a variable. -/
theorem Declares.isVariable {scope : Scope} {names : List String} (h : Declares scope names)
    {name parameter : String} (hname : name ∈ names)
    (hparameter : scope.parameter? name = some parameter) :
    scope.parameterOf name = parameter ∧ IsVariable parameter := by
  have heq : scope.parameterOf name = parameter := by rw [Scope.parameterOf, hparameter]; rfl
  exact ⟨heq, heq ▸ h.2 name hname⟩

/-- The local variable of a parameter (`formattedName`) is a variable. -/
theorem isVariable_formattedName {parameter : String} (h : IsVariable parameter) :
    IsVariable (formattedName parameter) := by
  constructor
  · have hend : "_formatted".toList.all isIdentifierPart = true := by decide
    exact isIdentifier_append h.1 (List.all_eq_true.1 hend)
  · -- No reserved word is as long as the ending alone.
    have hshort : ∀ word ∈ keywords, word.length < 10 := by decide
    rw [isKeyword, ← Bool.not_eq_true, List.contains_iff_mem]
    intro hmem
    have hlength := hshort _ hmem
    rw [formattedName, String.length_append] at hlength
    have hending : "_formatted".length = 10 := by decide
    omega

/-- The locale of an accessor (`localeName`) is a path. -/
private theorem denotes_localeName : Denotes localeName localeTree :=
  denotes_path (path_field (by decide) (by decide) (by decide))

/-! ## Leaves -/

variable {scope : Scope}

/-- A parameter made a string. -/
private theorem denotes_str {parameter : String} (h : IsVariable parameter) :
    Denotes (.call "str" false [.positional (.name parameter)])
      (.call (.name "str") [.name parameter] []) := by
  have hname := denotes_path (path_variable h)
  have hcall := denotes_call (path_variable (by decide : IsVariable "str")) false
    [.name parameter] [] (.inr (by simp)) (by simpa using hname.readable) (by simp) (by simp)
  simpa [argumentsOf, hname.tree] using hcall

/-- The expression of a reference (`referenceExpr?`) denotes its image. -/
private theorem denotes_referenceExpr {name : String} {e : Expr} (hdeclares : Declares scope [name])
    (h : referenceExpr? scope name = some e) : Denotes e (referenceTree scope name) := by
  rw [referenceExpr?] at h
  obtain ⟨p, hp, hmore⟩ := Option.bind_eq_some_iff.1 h
  obtain ⟨parameter, hparameter, rfl⟩ := Option.map_eq_some_iff.1 hmore
  obtain ⟨heq, hvariable⟩ := hdeclares.isVariable List.mem_cons_self hparameter
  rw [referenceTree, hp, heq]
  simp only [Option.any_some]
  -- a local if the value is formatted, and else the parameter, made a string unless it is one
  split
  · exact denotes_path (path_variable (isVariable_formattedName hvariable))
  · by_cases hstring : p.type = .string
    · rw [if_pos hstring, if_pos (by simpa using hstring)]
      exact denotes_path (path_variable hvariable)
    · rw [if_neg hstring, if_neg (by simpa using hstring)]
      exact denotes_str hvariable

/-- The call that formats a date by a skeleton (`format_datetime_skeleton`). -/
private theorem denotes_skeletonCall {parameter : String} (h : IsVariable parameter) {format : Expr}
    {value : Tree} (hformat : Denotes format value) (time : Bool) :
    Denotes
      (.call "runtime.format_datetime_skeleton" false
        ([.positional (.name parameter), .positional format, .positional localeName] ++
          if time then [.named "time" (.name "True")] else []))
      (.call (runtimeTree "format_datetime_skeleton") [.name parameter, value, localeTree]
        (if time then [("time", .constant "True")] else [])) := by
  have hname := denotes_path (path_variable h)
  have htrue : Denotes (.name "True") (.constant "True") := denotes_constant (by decide)
  have hfunction : IsPath "runtime.format_datetime_skeleton" ∧
      pathTree "runtime.format_datetime_skeleton" = runtimeTree "format_datetime_skeleton" :=
    path_field (by decide) (by decide) (by decide)
  have hpositional : ∀ e ∈ [.name parameter, format, localeName], e.Readable := by
    simpa using ⟨hname.readable, hformat.readable, denotes_localeName.readable⟩
  -- a time is marked by a keyword argument
  cases time with
  | false =>
    have hcall := denotes_call hfunction false _ [] (.inr (by simp)) hpositional (by simp) (by simp)
    simpa [argumentsOf, hname.tree, hformat.tree, denotes_localeName.tree] using hcall
  | true =>
    have hkeywords : ∀ k ∈ [("time", Expr.name "True")], IsVariable k.1 ∧ k.2.Readable := by
      have htime : IsVariable "time" := by decide
      simpa using ⟨htime, htrue.readable⟩
    have hcall := denotes_call hfunction false _ [("time", .name "True")] (.inr (by simp))
      hpositional hkeywords (by simp)
    simpa [argumentsOf, hname.tree, hformat.tree, denotes_localeName.tree, htrue.tree] using hcall

/-- The expression of a date or time denotes (`Denotes`) its image. -/
private theorem denotes_argumentExpr {name : String} {kind : ArgumentKind}
    {skeleton : Option String} {e : Expr} (hdeclares : Declares scope [name])
    (h : argumentExpr? scope name kind skeleton = some e) :
    Denotes e (argumentTree scope name kind skeleton) := by
  unfold argumentExpr? at h
  obtain ⟨parameter, hparameter, rfl⟩ := Option.map_eq_some_iff.1 h
  obtain ⟨heq, hvariable⟩ := hdeclares.isVariable List.mem_cons_self hparameter
  rw [argumentTree, heq]
  split
  · cases skeleton with
    | some s => exact denotes_skeletonCall hvariable (denotes_literal s) false
    -- without a skeleton, `None` asks for the usual format of the kind
    | none =>
      have hnone : Denotes (.name "None") (.constant "None") := denotes_constant (by decide)
      cases kind with
      | date => exact denotes_skeletonCall hvariable hnone false
      | time => exact denotes_skeletonCall hvariable hnone true
  · exact denotes_str hvariable

/-! ## Choices -/

/-- The keys of compiled branches with what their expressions denote. -/
def treeForms (cs : List CompiledBranch) : List (Key × Tree) :=
  cs.map fun c => (c.key, c.value.tree)

/-- The word arguments of a choice, as keywords with their values. -/
def wordKeywords (cs : List CompiledBranch) (words : List String) : List (String × Expr) :=
  words.filterMap fun w => (wordValue? cs w).map (w, ·)

/-- The exact argument of a choice, as a keyword with its value. -/
def exactKeywords (cs : List CompiledBranch) : List (String × Expr) :=
  if (exactPairs cs).isEmpty then [] else [("exact", .dict (exactPairs cs))]

variable {cs : List CompiledBranch}

/-- The arguments for words (`wordArguments`) are the keywords that have values. -/
private theorem wordArguments_eq (cs : List CompiledBranch) (words : List String) :
    wordArguments cs words = (wordKeywords cs words).map fun k => .named k.1 k.2 := by
  rw [wordArguments, wordKeywords, List.map_filterMap]
  simp [Option.map_map, Function.comp_def]

/-- The argument `exact` is a keyword, unless there is nothing exact. -/
private theorem exactArguments_eq (cs : List CompiledBranch) :
    exactArguments cs = (exactKeywords cs).map fun k => .named k.1 k.2 := by
  rw [exactArguments, exactKeywords]
  split <;> rfl

/-- The trees of these keywords (`wordKeywords`) are those of the words in the image. -/
private theorem trees_wordKeywords (cs : List CompiledBranch) (words : List String) :
    (wordKeywords cs words).map (fun k => (k.1, k.2.tree)) = wordTrees (treeForms cs) words := by
  rw [wordTrees, wordKeywords, List.map_filterMap]
  congr 1
  funext w
  simp [formOf, treeForms, wordValue?, List.find?_map, Option.map_map, Function.comp_def]

/-- The dictionary of exact numbers (`exactPairs`) has the trees of the exact branches. -/
private theorem pairTrees_exactPairs (cs : List CompiledBranch) :
    pairTrees (exactPairs cs) = exactTrees (treeForms cs) := by
  rw [pairTrees_eq_map, exactPairs, exactTrees, treeForms, List.map_filterMap, List.filterMap_map]
  congr 1
  funext c
  cases hvalue : c.key.value? <;> simp [hvalue, Expr.tree]

/-- The dictionary of cases has the trees of the branches other than `other`. -/
private theorem pairTrees_casePairs (cs : List CompiledBranch) :
    pairTrees (casePairs cs) = caseTrees (treeForms cs) := by
  rw [pairTrees_eq_map, casePairs, caseTrees, treeForms, List.map_filterMap, List.filterMap_map]
  congr 1
  funext c
  by_cases hother : c.key = .other <;> simp [hother, Expr.tree]

/-- The keyword `exact` has the tree of its dictionary. -/
private theorem trees_exactKeywords (cs : List CompiledBranch) :
    (exactKeywords cs).map (fun k => (k.1, k.2.tree)) =
      if (exactTrees (treeForms cs)).isEmpty then []
      else [("exact", .dict (exactTrees (treeForms cs)))] := by
  have hempty : (exactTrees (treeForms cs)).isEmpty = (exactPairs cs).isEmpty := by
    rw [← pairTrees_exactPairs, pairTrees_eq_map, List.isEmpty_map]
  rw [exactKeywords, hempty, ← pairTrees_exactPairs]
  split
  · rfl
  · rw [List.map_singleton, Expr.tree]

/-- The exact branches of a plural can be read (`Readable`) back. -/
private theorem readable_exactPairs (hcs : IsChoice .plural cs) (h : ∀ c ∈ cs, c.value.Readable) :
    ReadablePairs (exactPairs cs) := by
  rw [readablePairs_iff]
  intro key value hmem
  obtain ⟨c, hc, heq⟩ := List.mem_filterMap.1 hmem
  obtain ⟨n, hn, heq⟩ := Option.map_eq_some_iff.1 heq
  cases heq
  refine ⟨?_, h c hc⟩
  have hfits := hcs.fits c hc
  cases hkey : c.key with
  -- only exact keys are in the dictionary, and their numbers are short enough to be read
  | word w => simp [hkey, Key.value?] at hn
  | exact k =>
    rw [hkey] at hfits hn
    obtain rfl : k = n := Option.some.inj hn
    rw [Expr.Readable]
    exact hfits

/-- The cases of a selection can be read (`Readable`) back. -/
private theorem readable_casePairs (h : ∀ c ∈ cs, c.value.Readable) : ReadablePairs (casePairs cs)
    := by
  rw [readablePairs_iff]
  intro key value hmem
  obtain ⟨c, hc, heq⟩ := List.mem_filterMap.1 hmem
  split at heq
  · cases heq
  · cases heq
    exact ⟨by rw [Expr.Readable]; trivial, h c hc⟩

/-- The words of a choice that have values (`wordKeywords`) are some of those asked for, in order.
-/
private theorem sublist_wordKeywords (cs : List CompiledBranch) (words : List String) :
    ((wordKeywords cs words).map (·.1)).Sublist words := by
  induction words with
  | nil => exact .slnil
  | cons w rest ih =>
    rw [wordKeywords, List.filterMap_cons]
    cases wordValue? cs w with
    | none => exact ih.cons w
    | some value => exact ih.cons_cons w

/-- The values of the words of a choice can be read (`Readable`) back. -/
private theorem readable_wordKeywords (h : ∀ c ∈ cs, c.value.Readable) {words : List String} :
    ∀ k ∈ wordKeywords cs words, k.2.Readable := by
  intro k hk
  obtain ⟨w, -, heq⟩ := List.mem_filterMap.1 hk
  obtain ⟨value, hvalue, rfl⟩ := Option.map_eq_some_iff.1 heq
  rw [wordValue?] at hvalue
  obtain ⟨c, hfind, rfl⟩ := Option.map_eq_some_iff.1 hvalue
  exact h c (List.mem_of_find?_eq_some hfind)

/-- The keywords of a plural are some of `exact` and the categories. -/
private theorem sublist_pluralKeywords (cs : List CompiledBranch) :
    ((exactKeywords cs ++ wordKeywords cs pluralCategories).map (·.1)).Sublist
      ("exact" :: pluralCategories) := by
  have hwords := sublist_wordKeywords cs pluralCategories
  rw [exactKeywords]
  split
  · exact hwords.cons "exact"
  · exact hwords.cons_cons "exact"

/-- The expression of a plural (`pluralExpr?`) denotes its image. -/
private theorem denotes_pluralExpr (hcs : IsChoice .plural cs)
    (hreadable : ∀ c ∈ cs, c.value.Readable)
    {p : String} (hp : IsVariable p) {e : Expr} (he : pluralExpr? p cs = some e) :
    Denotes e (pluralTree p (treeForms cs)) := by
  have hname := denotes_path (path_variable hp)
  have hfunction : IsPath "runtime.plural" ∧ pathTree "runtime.plural" = runtimeTree "plural" :=
    path_field (by decide) (by decide) (by decide)
  have hpositional : ∀ e ∈ [.name p, localeName], e.Readable := by
    simpa using ⟨hname.readable, denotes_localeName.readable⟩
  -- `exact` is no category, so the keywords are distinct whatever branches there are
  have hsublist := sublist_pluralKeywords cs
  have hvariable : ∀ w ∈ "exact" :: pluralCategories, IsVariable w := by decide
  have hkeywords : ∀ k ∈ exactKeywords cs ++ wordKeywords cs pluralCategories,
      IsVariable k.1 ∧ k.2.Readable := by
    intro k hk
    refine ⟨hvariable _ (hsublist.subset (List.mem_map_of_mem hk)), ?_⟩
    rcases List.mem_append.1 hk with hk | hk
    · rw [exactKeywords] at hk
      split at hk
      · cases hk
      · obtain rfl := List.mem_singleton.1 hk
        rw [Expr.Readable]
        exact readable_exactPairs hcs hreadable
    · exact readable_wordKeywords hreadable k hk
  have hcall := denotes_call hfunction true _ _ (.inl rfl) hpositional hkeywords
    (hsublist.nodup (by decide))
  rw [List.map_append, trees_exactKeywords, trees_wordKeywords] at hcall
  rw [pluralExpr?_eq he, exactArguments_eq, wordArguments_eq, ← List.map_append, pluralTree]
  simpa [argumentsOf, hname.tree, denotes_localeName.tree] using hcall

/-- The expression of a selection (`selectExpr?`) denotes its image. -/
private theorem denotes_selectExpr (hreadable : ∀ c ∈ cs, c.value.Readable) {p : String}
    (hp : IsVariable p) {e : Expr} (he : selectExpr? p cs = some e) :
    Denotes e (selectTree p (treeForms cs)) := by
  have hname := denotes_path (path_variable hp)
  have hfunction : IsPath "runtime.select" ∧ pathTree "runtime.select" = runtimeTree "select" :=
    path_field (by decide) (by decide) (by decide)
  -- everything that the call is made of can be read back
  have hcases : (Expr.dict (casePairs cs)).Readable := by
    rw [Expr.Readable]
    exact readable_casePairs hreadable
  have hpositional : ∀ e ∈ [Expr.name p, .dict (casePairs cs)], e.Readable := by
    simpa using ⟨hname.readable, hcases⟩
  have hsublist := sublist_wordKeywords cs ["other"]
  have hvariable : ∀ w ∈ ["other"], IsVariable w := by decide
  have hkeywords : ∀ k ∈ wordKeywords cs ["other"], IsVariable k.1 ∧ k.2.Readable := fun k hk =>
    ⟨hvariable _ (hsublist.subset (List.mem_map_of_mem hk)), readable_wordKeywords hreadable k hk⟩
  have hcall := denotes_call hfunction true _ _ (.inl rfl) hpositional hkeywords
    (hsublist.nodup (by decide))
  rw [trees_wordKeywords] at hcall
  rw [selectExpr?_eq he, wordArguments_eq, selectTree]
  simpa [argumentsOf, (path_variable hp).2, Expr.tree, pairTrees_casePairs] using hcall

/-! ## Messages -/

/-- The sum of operands (`joinAll`) can be read back, and its tree is the sum of theirs. -/
private theorem tree_joinAll {es : List Expr} (h : ∀ e ∈ es, e.Readable ∧ e.isOperand = true) :
    (joinAll es).Readable ∧ (joinAll es).tree = sumOf (es.map Expr.tree) := by
  cases es with
  | nil => exact ⟨by rw [joinAll, Expr.Readable]; trivial, by rw [joinAll, Expr.tree]; rfl⟩
  | cons e rest =>
    obtain ⟨he, hrest⟩ := List.forall_mem_cons.1 h
    rw [joinAll, List.map_cons, sumOf]
    -- the sum is built from the left, so what has been added up so far is generalised
    have hfold : ∀ first : Expr, first.Readable → (rest.foldl .join first).Readable ∧
        (rest.foldl .join first).tree = (rest.map Expr.tree).foldl .sum first.tree := by
      clear he h
      induction rest with
      | nil => exact fun first hfirst => ⟨hfirst, rfl⟩
      | cons next more ih =>
        intro first hfirst
        obtain ⟨hnext, hmore⟩ := List.forall_mem_cons.1 hrest
        have hjoin : (Expr.join first next).Readable := by
          rw [Expr.Readable]
          exact ⟨hfirst, hnext.1, hnext.2⟩
        obtain ⟨hread, htree⟩ := ih hmore (.join first next) hjoin
        rw [Expr.tree] at htree
        exact ⟨hread, htree⟩
    exact hfold e he.1

variable {texts : String → Prop}

mutual

/-- The expression of a node (`nodeExpr?`) denotes its image. -/
theorem denotes_nodeExpr : ∀ (n : Node) (e : Expr), WellFormedNode texts n →
    Declares scope (nodeNames n) → nodeExpr? scope n = some e → Denotes e (imageNode scope n)
  | .text value _, e, _, _, he => by
    rw [nodeExpr?] at he
    obtain rfl := Option.some.inj he
    rw [imageNode]
    exact denotes_literal value
  | .reference name _, e, _, hdeclares, he => by
    rw [nodeNames] at hdeclares
    rw [nodeExpr?] at he
    rw [imageNode]
    exact denotes_referenceExpr hdeclares he
  | .argument name kind skeleton _, e, _, hdeclares, he => by
    rw [nodeNames] at hdeclares
    rw [nodeExpr?] at he
    rw [imageNode]
    exact denotes_argumentExpr hdeclares he
  | .choice kind name branches _, e, hwell, hdeclares, he => by
    rw [WellFormedNode] at hwell
    obtain ⟨-, hbranches, hkeys, hother⟩ := hwell
    rw [nodeNames] at hdeclares
    rw [nodeExpr?] at he
    obtain ⟨parameter, hparameter, hmore⟩ := Option.bind_eq_some_iff.1 he
    obtain ⟨cs, hcs, hchoice⟩ := Option.bind_eq_some_iff.1 hmore
    obtain ⟨heq, hvariable⟩ := hdeclares.isVariable List.mem_cons_self hparameter
    obtain ⟨hreadable, hforms⟩ := denotes_branchExprs kind branches cs hbranches
      (hdeclares.subset (List.subset_cons_self _ _)) hcs
    -- the branches denote their images, so the call does
    have hchoiceOf := isChoice_of_branchExprs hbranches hkeys hother hcs
    cases kind with
    | plural =>
      rw [imageNode, heq, ← hforms]
      exact denotes_pluralExpr hchoiceOf hreadable hvariable hchoice
    | select =>
      rw [imageNode, heq, ← hforms]
      exact denotes_selectExpr hreadable hvariable hchoice

/-- The expressions of branches (`branchExprs?`) can be read back, and denote the images of their
messages. -/
theorem denotes_branchExprs (kind : ChoiceKind) : ∀ (branches : List Branch)
    (cs : List CompiledBranch), WellFormedBranches texts kind branches →
    Declares scope (branchNames branches) → branchExprs? scope branches = some cs →
    (∀ c ∈ cs, c.value.Readable) ∧ treeForms cs = imageBranches scope branches
  | [], cs, _, _, hcs => by
    rw [branchExprs?] at hcs
    obtain rfl := Option.some.inj hcs
    exact ⟨by simp, by rw [imageBranches]; rfl⟩
  | .mk key message span :: rest, cs, hwell, hdeclares, hcs => by
    obtain ⟨-, hmessage, hrest⟩ := (wellFormedBranches_cons ..).1 hwell
    rw [branchNames_cons] at hdeclares
    rw [branchExprs?] at hcs
    obtain ⟨es, hes, hmore⟩ := Option.bind_eq_some_iff.1 hcs
    obtain ⟨cs', hcs', rfl⟩ := Option.map_eq_some_iff.1 hmore
    obtain ⟨hoperands, htrees⟩ := denotes_nodeExprs message es hmessage.1
      (hdeclares.subset (List.subset_append_left _ _)) hes
    obtain ⟨hreadable, hforms⟩ := denotes_branchExprs kind rest cs' hrest
      (hdeclares.subset (List.subset_append_right _ _)) hcs'
    -- the summands of the branch are operands, so their sum is read back as one
    obtain ⟨hjoin, hsum⟩ := tree_joinAll hoperands
    refine ⟨List.forall_mem_cons.2 ⟨hjoin, hreadable⟩, ?_⟩
    rw [imageBranches, ← hforms, ← htrees, ← hsum]
    rfl

/-- The expressions of nodes (`nodeExprs?`) are operands and denote the images of the nodes. -/
theorem denotes_nodeExprs : ∀ (nodes : List Node) (es : List Expr), WellFormedNodes texts nodes →
    Declares scope (messageNames nodes) → nodeExprs? scope nodes = some es →
    (∀ e ∈ es, e.Readable ∧ e.isOperand = true) ∧ es.map Expr.tree = imageNodes scope nodes
  | [], es, _, _, hes => by
    rw [nodeExprs?] at hes
    obtain rfl := Option.some.inj hes
    exact ⟨by simp, by rw [imageNodes]; rfl⟩
  | n :: rest, es, hwell, hdeclares, hes => by
    obtain ⟨hn, hrest⟩ := (wellFormedNodes_cons _ _).1 hwell
    rw [messageNames_cons] at hdeclares
    rw [nodeExprs?] at hes
    obtain ⟨e, he, hmore⟩ := Option.bind_eq_some_iff.1 hes
    obtain ⟨es', hes', rfl⟩ := Option.map_eq_some_iff.1 hmore
    have hhead := denotes_nodeExpr n e hn (hdeclares.subset (List.subset_append_left _ _)) he
    obtain ⟨hoperands, htrees⟩ := denotes_nodeExprs rest es' hrest
      (hdeclares.subset (List.subset_append_right _ _)) hes'
    refine ⟨List.forall_mem_cons.2 ⟨⟨hhead.readable, hhead.operand⟩, hoperands⟩, ?_⟩
    rw [imageNodes, List.map_cons, htrees, hhead.tree]

end

/-- The expression of a message (`messageExpr?`) can be read back, and its tree is the image of the
message. -/
theorem tree_messageExpr {m : Message} (hwell : WellFormed texts m)
    (hdeclares : Declares scope (messageNames m)) {e : Expr} (he : messageExpr? scope m = some e) :
    e.Readable ∧ e.tree = image scope m := by
  rw [messageExpr?] at he
  obtain ⟨es, hes, rfl⟩ := Option.map_eq_some_iff.1 he
  obtain ⟨hoperands, htrees⟩ := denotes_nodeExprs m es hwell.1 hdeclares hes
  rw [image, ← htrees]
  exact tree_joinAll hoperands

end Parlance.Code
