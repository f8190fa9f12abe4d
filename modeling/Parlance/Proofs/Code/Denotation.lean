import Mathlib.Data.List.Nodup
import Parlance.Proofs.Code.RoundTrip

/-!
# What expressions denote

An expression that can be read as an operand denotes its tree. Strings, paths and constants denote
themselves, and a call whose keywords are distinct denotes the call of what its arguments denote
(`denotes_call`).
-/

namespace Parlance.Code

open Parlance.Text

/-- An expression that can be read as an operand and whose tree is known. -/
structure Denotes (e : Expr) (value : Tree) : Prop where
  readable : e.Readable
  operand : e.isOperand = true
  tree : e.tree = value

/-! ## Strings, constants and paths -/

/-- A literal denotes (`Denotes`) its text. -/
theorem denotes_literal (s : String) : Denotes (.literal s) (.text s) :=
  ⟨by rw [Expr.Readable]; trivial, rfl, by rw [Expr.tree]⟩

/-- A constant denotes (`Denotes`) itself. -/
theorem denotes_constant {word : String} (h : word ∈ constants) :
    Denotes (.name word) (.constant word) := by
  -- the constants are few enough to look at each
  have hcut : ∀ word ∈ constants, cutAt '.' word = [word] ∧ isIdentifier word = true := by decide
  have hword : wordTree? word = some (.constant word) := by
    rw [wordTree?, List.contains_iff_mem.2 h]
    rfl
  refine ⟨?_, rfl, ?_⟩
  · rw [Expr.Readable]
    exact ⟨word, [], (hcut word h).1, (hcut word h).2, by rw [hword]; rfl, by simp⟩
  · rw [Expr.tree, pathTree, (hcut word h).1]
    simp [hword]

/-- A variable (`IsVariable`) is a path. -/
theorem path_variable {s : String} (h : IsVariable s) : IsPath s ∧ pathTree s = .name s := by
  have hcut := cutAt_identifier h.1
  have hword := wordTree?_variable h.2
  refine ⟨⟨s, [], hcut, h.1, by rw [hword]; rfl, by simp⟩, ?_⟩
  rw [pathTree, hcut]
  simp [hword]

/-- A field of a variable is a path (`IsPath`). -/
theorem path_field {path first field : String} (hcut : cutAt '.' path = [first, field])
    (hfirst : IsVariable first) (hfield : IsVariable field) :
    IsPath path ∧ pathTree path = .attribute (.name first) field := by
  have hword := wordTree?_variable hfirst.2
  refine ⟨⟨first, [field], hcut, hfirst.1, by rw [hword]; rfl, by simpa using hfield⟩, ?_⟩
  rw [pathTree, hcut]
  simp [hword]

/-- A dotted `path` denotes its tree. -/
theorem denotes_path {path : String} {value : Tree}
    (h : IsPath path ∧ pathTree path = value) : Denotes (.name path) value :=
  ⟨by rw [Expr.Readable]; exact h.1, rfl, by rw [Expr.tree]; exact h.2⟩

/-! ## Calls -/

/-- Arguments by position and then by keyword. -/
def argumentsOf (positional : List Expr) (keywords : List (String × Expr)) : List Argument :=
  positional.map .positional ++ keywords.map fun k => .named k.1 k.2

/-- The trees by position are those of the `positional` arguments. -/
private theorem positionalTrees_argumentsOf (positional : List Expr)
    (keywords : List (String × Expr)) :
    positionalTrees (argumentsOf positional keywords) = positional.map Expr.tree := by
  induction positional with
  | nil =>
    induction keywords with
    | nil => simp [argumentsOf, positionalTrees]
    | cons k rest ih => simpa [argumentsOf, Argument.named, positionalTrees] using ih
  | cons e rest ih =>
    simpa [argumentsOf, Argument.positional, positionalTrees] using ih

/-- The trees by keyword are those of the `keywords`. -/
private theorem keywordTrees_argumentsOf (positional : List Expr) (keywords : List (String × Expr))
    : keywordTrees (argumentsOf positional keywords) = keywords.map fun k => (k.1, k.2.tree) := by
  induction positional with
  | nil =>
    induction keywords with
    | nil => simp [argumentsOf, keywordTrees]
    | cons k rest ih => simpa [argumentsOf, Argument.named, keywordTrees] using ih
  | cons e rest ih =>
    simpa [argumentsOf, Argument.positional, keywordTrees] using ih

/-- Keywords that are distinct variables stand in order (`InOrder`). -/
private theorem inOrder_argumentsOf (positional : List Expr) {keywords : List (String × Expr)}
    (hnodup : (keywords.map (·.1)).Nodup) (hvariable : ∀ k ∈ keywords, IsVariable k.1) :
    InOrder [] (argumentsOf positional keywords) := by
  induction positional with
  | cons e rest ih => exact ⟨rfl, ih⟩
  | nil =>
    -- the induction is on the keywords that are left, with those before them in `taken`
    have hnamed : ∀ (taken : List String), (taken ++ keywords.map (·.1)).Nodup →
        InOrder taken (keywords.map fun k => .named k.1 k.2) := by
      clear hnodup
      induction keywords with
      | nil => intro taken _; trivial
      | cons k rest ih =>
        intro taken hnodup
        obtain ⟨hk, hrest⟩ := List.forall_mem_cons.1 hvariable
        rw [List.map_cons] at hnodup
        have hnew : k.1 ∉ taken := fun hmem =>
          List.disjoint_of_nodup_append hnodup hmem List.mem_cons_self
        rw [List.append_cons] at hnodup
        exact ⟨hnew, hk, ih hrest _ hnodup⟩
    exact hnamed [] hnodup

/-- Arguments are readable (`ReadableArguments`) if all their values are. -/
private theorem readableArguments_iff {arguments : List Argument} :
    ReadableArguments arguments ↔
      ∀ keyword value, .mk keyword value ∈ arguments → value.Readable := by
  induction arguments with
  | nil => simp [ReadableArguments]
  | cons a rest ih =>
    cases a with
    | mk keyword value =>
      rw [ReadableArguments, ih]
      constructor
      · rintro ⟨hvalue, hrest⟩ k v hmem
        rcases List.mem_cons.1 hmem with heq | hmem
        · cases heq
          exact hvalue
        · exact hrest k v hmem
      · intro h
        exact ⟨h keyword value List.mem_cons_self,
          fun k v hmem => h k v (List.mem_cons_of_mem _ hmem)⟩

/-- A call of readable arguments, with distinct keywords, denotes (`Denotes`) the call of what they
denote. -/
theorem denotes_call {path : String} {function : Tree}
    (hpath : IsPath path ∧ pathTree path = function) (stacked : Bool) (positional : List Expr)
    (keywords : List (String × Expr)) (hsome : stacked = true ∨ positional ≠ [])
    (hpositional : ∀ e ∈ positional, e.Readable)
    (hkeywords : ∀ k ∈ keywords, IsVariable k.1 ∧ k.2.Readable)
    (hnodup : (keywords.map (·.1)).Nodup) :
    Denotes (.call path stacked (argumentsOf positional keywords))
      (.call function (positional.map Expr.tree) (keywords.map fun k => (k.1, k.2.tree))) := by
  refine ⟨?_, rfl, ?_⟩
  · -- readable: a path, something by position unless stacked, keywords in order, readable values
    rw [Expr.Readable]
    refine ⟨hpath.1, hsome.imp_right fun hne => by simp [argumentsOf, hne],
      inOrder_argumentsOf positional hnodup fun k hk => (hkeywords k hk).1, ?_⟩
    rw [readableArguments_iff]
    intro keyword value hmem
    rcases List.mem_append.1 hmem with hmem | hmem
    · obtain ⟨e, he, heq⟩ := List.mem_map.1 hmem
      cases heq
      exact hpositional _ he
    · obtain ⟨k, hk, heq⟩ := List.mem_map.1 hmem
      cases heq
      exact (hkeywords k hk).2
  · rw [Expr.tree, positionalTrees_argumentsOf, keywordTrees_argumentsOf, hpath.2]

/-! ## Dictionaries -/

/-- The pairs of a dictionary (`pairTrees`) have the trees of their keys and values. -/
theorem pairTrees_eq_map (entries : List Pair) :
    pairTrees entries = entries.map fun | .mk key value => (key.tree, value.tree) := by
  induction entries with
  | nil => rw [pairTrees, List.map_nil]
  | cons p rest ih =>
    cases p with
    | mk key value => rw [pairTrees, ih, List.map_cons]

/-- Pairs are readable (`ReadablePairs`) if all their keys and values are. -/
theorem readablePairs_iff {entries : List Pair} :
    ReadablePairs entries ↔
      ∀ key value, .mk key value ∈ entries → key.Readable ∧ value.Readable := by
  induction entries with
  | nil => simp [ReadablePairs]
  | cons p rest ih =>
    cases p with
    | mk key value =>
      rw [ReadablePairs, ih]
      constructor
      · rintro ⟨hkey, hvalue, hrest⟩ k v hmem
        rcases List.mem_cons.1 hmem with heq | hmem
        · cases heq
          exact ⟨hkey, hvalue⟩
        · exact hrest k v hmem
      · intro h
        obtain ⟨hkey, hvalue⟩ := h key value List.mem_cons_self
        exact ⟨hkey, hvalue, fun k v hmem => h k v (List.mem_cons_of_mem _ hmem)⟩

end Parlance.Code
