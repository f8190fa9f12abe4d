/-!
# Association lists in order of insertion

`Assoc α` maps names to values and remembers in which order the names first came. Setting a name
that is present replaces its value and keeps its place; a new name goes to the end
(`keys_set_of_mem`, `keys_set_of_not_mem`, `get?_set_self`, `get?_set_of_ne`). Every name of the
pairs that a list is made of has a value in it (`exists_get?_ofPairs`), and every value in it comes
from one of them (`mem_of_get?_ofPairs`). Pairs of distinct names stay as they stand
(`ofPairs_of_nodup`), and each name has its own value (`get?_of_mem`).
-/

namespace Parlance

/-- Pairs of a name and a value, in order of insertion. -/
abbrev Assoc (α : Type) := List (String × α)

namespace Assoc

variable {α : Type}

/-- The value of a name. -/
def get? (entries : Assoc α) (name : String) : Option α :=
  (entries.find? (·.1 == name)).map (·.2)

/-- The names in order. -/
def keys (entries : Assoc α) : List String := entries.map (·.1)

/-- The values in order. -/
def values (entries : Assoc α) : List α := entries.map (·.2)

/-- Gives a name a value, in its place if it is present and at the end if it is not. -/
def set : Assoc α → String → α → Assoc α
  | [], name, value => [(name, value)]
  | entry :: rest, name, value =>
    if entry.1 = name then (name, value) :: rest else entry :: set rest name value

/-- Sets each pair in turn, so that of two pairs with one name the later gives the value. -/
def ofPairs (pairs : List (String × α)) : Assoc α :=
  pairs.foldl (fun entries p => set entries p.1 p.2) []

/-- No name has a value in an empty list. -/
theorem get?_nil (name : String) : get? ([] : Assoc α) name = none := rfl

/-- A name has the value (`get?`) of the first entry under it. -/
theorem get?_cons (entry : String × α) (rest : Assoc α) (name : String) :
    get? (entry :: rest) name = if entry.1 = name then some entry.2 else get? rest name := by
  by_cases h : entry.1 = name <;> simp [get?, h]

/-- A name that was set (`set`) has the value it was set to. -/
theorem get?_set_self (entries : Assoc α) (name : String) (value : α) :
    get? (set entries name value) name = some value := by
  induction entries with
  | nil => simp [set, get?_cons]
  | cons entry rest ih =>
    by_cases h : entry.1 = name
    · simp [set, h, get?_cons]
    · simp [set, h, get?_cons, ih]

/-- Setting a name (`set`) leaves every other name alone. -/
theorem get?_set_of_ne (entries : Assoc α) {name other : String} (value : α) (h : other ≠ name) :
    get? (set entries name value) other = get? entries other := by
  induction entries with
  | nil => simp [set, get?_cons, get?_nil, Ne.symm h]
  | cons entry rest ih =>
    by_cases he : entry.1 = name
    · simp [set, he, get?_cons, Ne.symm h]
    · by_cases ho : entry.1 = other
      · simp [set, get?_cons, ho, h]
      · simp [set, he, get?_cons, ho, ih]

/-- Setting a name that is present keeps all names (`keys`) in place. -/
theorem keys_set_of_mem {entries : Assoc α} {name : String} (value : α)
    (h : name ∈ keys entries) : keys (set entries name value) = keys entries := by
  induction entries with
  | nil => simp [keys] at h
  | cons entry rest ih =>
    by_cases he : entry.1 = name
    · simp [set, he, keys]
    · simp only [keys, List.map_cons, List.mem_cons] at h
      have := ih (h.resolve_left (Ne.symm he))
      simpa [set, he, keys] using this

/-- Setting a new name puts it after all others (`keys`). -/
theorem keys_set_of_not_mem {entries : Assoc α} {name : String} (value : α)
    (h : name ∉ keys entries) : keys (set entries name value) = keys entries ++ [name] := by
  induction entries with
  | nil => simp [set, keys]
  | cons entry rest ih =>
    simp only [keys, List.map_cons, List.mem_cons, not_or] at h
    have := ih h.2
    simpa [set, Ne.symm h.1, keys] using this

/-- Setting a new name puts it with its value after all others. -/
theorem set_of_not_mem {entries : Assoc α} {name : String} (value : α)
    (h : name ∉ keys entries) : set entries name value = entries ++ [(name, value)] := by
  induction entries with
  | nil => rfl
  | cons entry rest ih =>
    simp only [keys, List.map_cons, List.mem_cons, not_or] at h
    rw [set, if_neg (Ne.symm h.1), ih h.2, List.cons_append]

/-- Setting pairs of new and distinct names puts them after all others. -/
theorem foldl_set_of_nodup {entries : Assoc α} {pairs : List (String × α)}
    (h : (keys (entries ++ pairs)).Nodup) :
    pairs.foldl (fun entries p => set entries p.1 p.2) entries = entries ++ pairs := by
  induction pairs generalizing entries with
  | nil => exact (List.append_nil entries).symm
  | cons p rest ih =>
    have hnew : p.1 ∉ keys entries := by
      rw [keys, List.map_append, List.map_cons, List.nodup_append] at h
      exact fun hmem => h.2.2 p.1 hmem p.1 List.mem_cons_self rfl
    rw [List.append_cons] at h
    rw [List.foldl_cons, set_of_not_mem p.2 hnew, ih h, List.append_assoc, List.singleton_append]

/-- A name that is no key (`keys`) has no value. -/
theorem get?_of_not_mem {entries : Assoc α} {name : String} (h : name ∉ keys entries) :
    get? entries name = none := by
  induction entries with
  | nil => rfl
  | cons entry rest ih =>
    obtain ⟨hfirst, hrest⟩ := not_or.1 (mt List.mem_cons.2 h)
    rw [get?_cons, if_neg (Ne.symm hfirst), ih hrest]

/-- In a list of distinct names each has the value that stands beside it. -/
theorem get?_of_mem {entries : Assoc α} (hdistinct : (keys entries).Nodup) {entry : String × α}
    (h : entry ∈ entries) : get? entries entry.1 = some entry.2 := by
  induction entries with
  | nil => cases h
  | cons first rest ih =>
    obtain ⟨hfirst, hrest⟩ := List.nodup_cons.1 hdistinct
    rw [get?_cons]
    rcases List.mem_cons.1 h with rfl | hmem
    · rw [if_pos rfl]
    · -- the names are distinct, so the first entry has another one
      have hne : first.1 ≠ entry.1 := fun heq =>
        hfirst (List.mem_map.2 ⟨entry, hmem, heq.symm⟩)
      rw [if_neg hne, ih hrest hmem]

/-- Lists of the same distinct names, in the same order, are equal if each name has the same value
in both. -/
theorem eq_of_keys_eq {entries entries' : Assoc α} (hkeys : keys entries = keys entries')
    (hdistinct : (keys entries).Nodup) (h : ∀ name, get? entries name = get? entries' name) :
    entries = entries' := by
  induction entries generalizing entries' with
  | nil => exact (List.map_eq_nil_iff.1 hkeys.symm).symm
  | cons entry rest ih =>
    cases entries' with
    | nil => cases hkeys
    | cons entry' rest' =>
      obtain ⟨hname, hnames⟩ : entry.1 = entry'.1 ∧ keys rest = keys rest' := List.cons.inj hkeys
      obtain ⟨hfirst, hrest⟩ := List.nodup_cons.1 hdistinct
      have hvalue := h entry.1
      rw [get?_cons, get?_cons, if_pos rfl, if_pos hname.symm, Option.some.injEq] at hvalue
      -- The first name is not among the others, so that the values of the rest are the same as
      -- well.
      have hmore : rest = rest' := by
        refine ih hnames hrest fun name => ?_
        by_cases heq : entry.1 = name
        · have hnot : name ∉ keys rest := heq ▸ hfirst
          rw [get?_of_not_mem hnot, get?_of_not_mem (hnames ▸ hnot)]
        · have hothers := h name
          rwa [get?_cons, get?_cons, if_neg heq, if_neg (hname ▸ heq)] at hothers
      rw [Prod.ext hname hvalue, hmore]

/-- Setting a name that some entries lack leaves these in place. -/
theorem set_append_of_not_mem {entries : Assoc α} {name : String} (value : α)
    (h : name ∉ keys entries) (more : Assoc α) :
    set (entries ++ more) name value = entries ++ set more name value := by
  induction entries with
  | nil => rfl
  | cons entry rest ih =>
    simp only [keys, List.map_cons, List.mem_cons, not_or] at h
    rw [List.cons_append, set, if_neg (Ne.symm h.1), ih h.2, List.cons_append]

/-- Setting pairs of names that some entries lack leaves these in place. -/
theorem foldl_set_append {entries : Assoc α} {pairs : List (String × α)}
    (h : ∀ p ∈ pairs, p.1 ∉ keys entries) (more : Assoc α) :
    pairs.foldl (fun all p => set all p.1 p.2) (entries ++ more) =
      entries ++ pairs.foldl (fun all p => set all p.1 p.2) more := by
  induction pairs generalizing more with
  | nil => rfl
  | cons p rest ih =>
    obtain ⟨hp, hrest⟩ := List.forall_mem_cons.1 h
    rw [List.foldl_cons, set_append_of_not_mem p.2 hp, ih hrest, List.foldl_cons]

/-- Pairs (`ofPairs`) of distinct names are an association list as they stand. -/
theorem ofPairs_of_nodup {pairs : List (String × α)} (h : (pairs.map (·.1)).Nodup) :
    ofPairs pairs = pairs :=
  foldl_set_of_nodup h

/-- A name keeps having a value while pairs are set, and each pair gives its name one. -/
theorem exists_get?_foldl {pairs : List (String × α)} {entries : Assoc α} {name : String}
    (h : (∃ value, get? entries name = some value) ∨ name ∈ pairs.map (·.1)) :
    ∃ value, get? (pairs.foldl (fun entries p => set entries p.1 p.2) entries) name =
      some value := by
  induction pairs generalizing entries with
  | nil => exact h.resolve_right (by simp)
  | cons p rest ih =>
    refine ih ?_
    by_cases hp : name = p.1
    · exact .inl ⟨p.2, hp ▸ get?_set_self entries p.1 p.2⟩
    · rcases h with ⟨value, hvalue⟩ | hmem
      · exact .inl ⟨value, (get?_set_of_ne entries p.2 hp).trans hvalue⟩
      · exact .inr ((List.mem_cons.1 hmem).resolve_left hp)

/-- Every name of some pairs (`ofPairs`) has a value. -/
theorem exists_get?_ofPairs {pairs : List (String × α)} {name : String}
    (h : name ∈ pairs.map (·.1)) : ∃ value, get? (ofPairs pairs) name = some value :=
  exists_get?_foldl (.inr h)

/-- While pairs are set, a value comes from a pair or was there before. -/
theorem mem_of_get?_foldl {pairs : List (String × α)} {entries : Assoc α} {name : String}
    {value : α}
    (h : get? (pairs.foldl (fun entries p => set entries p.1 p.2) entries) name = some value) :
    (name, value) ∈ pairs ∨ get? entries name = some value := by
  induction pairs generalizing entries with
  | nil => exact .inr h
  | cons p rest ih =>
    rcases ih h with hrest | hset
    · exact .inl (List.mem_cons_of_mem p hrest)
    · by_cases hp : name = p.1
      · rw [hp, get?_set_self, Option.some.injEq] at hset
        exact .inl (List.mem_cons.2 (.inl (Prod.ext hp hset.symm)))
      · exact .inr (by rwa [get?_set_of_ne entries p.2 hp] at hset)

/-- The value of a name comes from one of the pairs (`ofPairs`). -/
theorem mem_of_get?_ofPairs {pairs : List (String × α)} {name : String} {value : α}
    (h : get? (ofPairs pairs) name = some value) : (name, value) ∈ pairs :=
  (mem_of_get?_foldl h).resolve_right (by simp [get?_nil])

end Assoc

end Parlance
