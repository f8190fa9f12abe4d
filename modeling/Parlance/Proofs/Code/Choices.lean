import Mathlib.Data.List.Nodup
import Parlance.Code.Body
import Parlance.Proofs.Message.Shape

/-!
# The calls of compiled choices

The branches of a choice are compiled one by one and keep their keys (`keys_branchExprs?`). A plural
passes its exact branches in a dictionary and one argument for every category that has a branch, of
which `other` is the last (`pluralExpr?_eq`). A selection passes its cases in a dictionary and then
`other` (`selectExpr?_eq`).
-/

namespace Parlance.Code

open Parlance.Grammar

/-! ## Compiled branches -/

/-- The compiled branches (`branchExprs?`) of a choice have the keys of its branches. -/
theorem keys_branchExprs? {scope : Scope} {branches : List Branch} {cs : List CompiledBranch}
    (h : branchExprs? scope branches = some cs) :
    cs.map CompiledBranch.key = branches.map Branch.key := by
  induction branches generalizing cs with
  | nil =>
    rw [branchExprs?] at h
    obtain rfl := Option.some.inj h
    rfl
  | cons b rest ih =>
    -- compiling a branch changes its message only
    cases b with
    | mk key message span =>
      rw [branchExprs?] at h
      obtain ⟨es, -, hrest⟩ := Option.bind_eq_some_iff.1 h
      obtain ⟨cs', hcs, rfl⟩ := Option.map_eq_some_iff.1 hrest
      simp [Branch.key, ih hcs]

/-- A word that is among the keys of compiled branches has an expression (`wordValue?`). -/
theorem exists_wordValue? {cs : List CompiledBranch} {w : String}
    (h : .word w ∈ cs.map CompiledBranch.key) : ∃ e, wordValue? cs w = some e := by
  obtain ⟨c, hc, hkey⟩ := List.mem_map.1 h
  cases hfind : cs.find? (·.key == .word w) with
  | none => exact absurd (List.find?_eq_none.1 hfind c hc) (by simp [hkey])
  | some d => exact ⟨d.value, by rw [wordValue?, hfind]; rfl⟩

/-- Whether compiled branches are those of a choice. -/
structure IsChoice (kind : ChoiceKind) (cs : List CompiledBranch) : Prop where
  keys : (cs.map CompiledBranch.key).Nodup
  other : Key.other ∈ cs.map CompiledBranch.key
  fits : ∀ c ∈ cs, KeyFits kind c.key

variable {cs : List CompiledBranch}

/-- The compiled branches of a well-formed choice (`IsChoice`) are those of a choice. -/
theorem isChoice_of_branchExprs {kind : ChoiceKind} {branches : List Branch}
    {scope : Scope} {texts : String → Prop} (hwell : WellFormedBranches texts kind branches)
    (hkeys : (branches.map Branch.key).Nodup) (hother : Key.other ∈ branches.map Branch.key)
    (h : branchExprs? scope branches = some cs) : IsChoice kind cs := by
  have heq := keys_branchExprs? h
  refine ⟨heq ▸ hkeys, heq ▸ hother, fun c hc => ?_⟩
  have hkey : c.key ∈ branches.map Branch.key := heq ▸ List.mem_map_of_mem hc
  obtain ⟨b, hb, hbc⟩ := List.mem_map.1 hkey
  exact hbc ▸ keyFits_of_mem hwell b hb

/-- A branch is found by its word. -/
theorem wordValue?_of_mem (hkeys : (cs.map CompiledBranch.key).Nodup) {c : CompiledBranch}
    (hc : c ∈ cs) {w : String} (hw : c.key = .word w) : wordValue? cs w = some c.value := by
  cases hfind : cs.find? (·.key == .word w) with
  | none => exact absurd (List.find?_eq_none.1 hfind c hc) (by simp [hw])
  | some d =>
    have hd : d.key = .word w := by simpa using List.find?_some hfind
    have heq := List.inj_on_of_nodup_map hkeys (List.mem_of_find?_eq_some hfind) hc
      (hd.trans hw.symm)
    rw [wordValue?, hfind, heq]
    rfl

/-! ## Arguments by keyword -/

/-- The argument with the exact branches of a plural, if it has any. -/
def exactArguments (cs : List CompiledBranch) : List Argument :=
  if (exactPairs cs).isEmpty then [] else [.named "exact" (.dict (exactPairs cs))]

/-- The arguments by keyword that a plural passes for words. -/
def wordArguments (cs : List CompiledBranch) (names : List String) : List Argument :=
  names.filterMap fun w => (wordValue? cs w).map (.named w ·)

/-- Words are looked up one by one, so `wordArguments` splits with their list. -/
private theorem wordArguments_append (cs : List CompiledBranch) (names more : List String) :
    wordArguments cs (names ++ more) = wordArguments cs names ++ wordArguments cs more :=
  List.filterMap_append

/-- The word `other` makes one argument, of its own expression. -/
private theorem wordArguments_other {other : Expr} (h : wordValue? cs "other" = some other) :
    wordArguments cs ["other"] = [.named "other" other] := by
  simp [wordArguments, h]

/-- A plural calls its function (`pluralExpr?`) with its exact branches and its words. -/
theorem pluralExpr?_eq {p : String} {e : Expr} (h : pluralExpr? p cs = some e) :
    e = .call "runtime.plural" true
      ([.positional (.name p), .positional localeName] ++
        (exactArguments cs ++ wordArguments cs pluralCategories)) := by
  rw [pluralExpr?] at h
  obtain ⟨other, hother, rfl⟩ := Option.map_eq_some_iff.1 h
  have hnames : pluralCategories = pluralCategories.filter (· != "other") ++ ["other"] := by decide
  rw [hnames, wordArguments_append, wordArguments_other hother, ← List.append_assoc,
    ← List.append_assoc, ← hnames]
  rfl

/-- A selection calls its function with its cases and `other`. -/
theorem selectExpr?_eq {p : String} {e : Expr} (h : selectExpr? p cs = some e) :
    e = .call "runtime.select" true
      ([.positional (.name p), .positional (.dict (casePairs cs))] ++
        wordArguments cs ["other"]) := by
  rw [selectExpr?] at h
  obtain ⟨other, hother, rfl⟩ := Option.map_eq_some_iff.1 h
  rw [wordArguments_other hother]
  rfl

end Parlance.Code
