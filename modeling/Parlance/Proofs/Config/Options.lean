import Parlance.Config
import Parlance.Proofs.Results

/-!
# Options of the wrong type

Every option takes values of one type (`Setter.Takes`, `assign_cases`). Options that are `null` or
not known do no harm (`applyOption_cases`), so the options of a source give settings unless one of
them has a value of the wrong type, and then the first such is refused (`ofOptions_cases`).
-/

namespace Parlance.Config

/-- What an option takes, in the words of its refusal. -/
def Setter.wanted : Setter → String
  | .text _ => "a string"
  | .flag _ => "a boolean"
  | .texts _ => "a list of strings"

/-- Whether an option takes a value. -/
def Setter.Takes : Setter → Value → Prop
  | .text _, v => ∃ s, v = .text s
  | .flag _, v => ∃ b, v = .bool b
  | .texts _, v => (∃ s, v = .text s) ∨ ∃ items, v = .list items ∧ ∀ x ∈ items, ∃ s, x = .text s

/-- Whether the setter of an option refuses a value; `null` leaves the default. -/
def Refuses (setter : Setter) (name : String) (value : Value) : Prop :=
  option? name = some setter ∧ value ≠ .null ∧ ¬ setter.Takes value

/-- Whether an option is known and has a value of the wrong type. -/
def WrongType (name : String) (value : Value) : Prop := ∃ setter, Refuses setter name value

/-- The refusal of a value of the wrong type. -/
def wrongType (name : String) (setter : Setter) (value : Value) : Fault :=
  .invalidConfigValue name setter.wanted value.kindName

/-- Whether a refusal is that of the first option whose value has the wrong type. -/
def FirstWrong (entries : Assoc Value) (f : Fault) : Prop :=
  ∃ before name value after setter, entries = before ++ (name, value) :: after ∧
    (∀ e ∈ before, ¬ WrongType e.1 e.2) ∧ Refuses setter name value ∧
      f = wrongType name setter value

/-! ## One option -/

/-- `Value.text?` answers for strings only. -/
private theorem exists_text?_eq_some_iff {v : Value} : (∃ s, v.text? = some s) ↔ ∃ s, v = .text s :=
    by
  cases v <;> simp [Value.text?]

/-- A list is read as strings (`text?`) if and only if every item is one. -/
private theorem exists_mapM_text?_iff {items : List Value} :
    (∃ ss, items.mapM Value.text? = some ss) ↔ ∀ x ∈ items, ∃ s, x = .text s := by
  induction items with
  | nil => simp
  | cons x rest ih =>
    rw [List.forall_mem_cons, ← exists_text?_eq_some_iff, ← ih, List.mapM_cons]
    cases x.text? with
    | none => simp
    | some s => cases rest.mapM Value.text? <;> simp

/-- `textsOf?` answers if and only if an option of several strings takes the value. -/
private theorem exists_textsOf?_iff {v : Value} (set : Config → List String → Config) :
    (∃ ss, textsOf? v = some ss) ↔ (Setter.texts set).Takes v := by
  cases v with
  | text s => exact iff_of_true ⟨[s], rfl⟩ (.inl ⟨s, rfl⟩)
  | list items => simp [textsOf?, Value.texts?, exists_mapM_text?_iff, Setter.Takes]
  | _ => simp [textsOf?, Value.texts?, Setter.Takes]

/-- An option takes its value, or refuses it in words that say what it takes. -/
theorem assign_cases (c : Config) (name : String) (setter : Setter) (value : Value) :
    (setter.Takes value ∧ ∃ c', c.assign name setter value = .ok c') ∨
      (¬ setter.Takes value ∧
        c.assign name setter value = .error (wrongType name setter value)) := by
  cases setter with
  | text set =>
    cases value with
    | text s => exact .inl ⟨⟨s, rfl⟩, _, rfl⟩
    | _ => exact .inr ⟨by simp [Setter.Takes], rfl⟩
  | flag set =>
    cases value with
    | bool b => exact .inl ⟨⟨b, rfl⟩, _, rfl⟩
    | _ => exact .inr ⟨by simp [Setter.Takes], rfl⟩
  | texts set =>
    -- a list is taken if all its items are texts
    rw [← exists_textsOf?_iff]
    cases htexts : textsOf? value with
    | some ss => exact .inl ⟨⟨ss, rfl⟩, set c ss, by rw [assign, htexts]⟩
    | none => exact .inr ⟨by simp, by rw [assign, htexts]; rfl⟩

/-- One option is applied, unless its value is `WrongType`: then it is refused in the words of its
setter. -/
theorem applyOption_cases (source : String) (c : Config) (name : String) (value : Value) :
    (¬ WrongType name value ∧ ∃ c', (applyOption source c name value).result = .ok c') ∨
      ∃ setter, Refuses setter name value ∧
        (applyOption source c name value).result = .error (wrongType name setter value) := by
  rw [applyOption]
  cases hoption : option? name with
  | none => exact .inl ⟨by simp [WrongType, Refuses, hoption], c, rfl⟩
  | some setter =>
    dsimp only
    split
    · next hnull =>
      -- `null` is passed over whatever the setter takes.
      refine .inl ⟨?_, c, rfl⟩
      rintro ⟨-, -, hvalue, -⟩
      cases value <;> simp_all [Value.isNull]
    · next hnull =>
      rcases assign_cases c name setter value with ⟨htakes, c', hc⟩ | ⟨htakes, hc⟩
      · refine .inl ⟨?_, c', hc⟩
        rintro ⟨other, hother, -, hrefuses⟩
        cases hoption.symm.trans hother
        exact hrefuses htakes
      · refine .inr ⟨setter, ⟨hoption, ?_, htakes⟩, hc⟩
        rintro rfl
        exact hnull rfl

/-! ## All options -/

/-- Options are applied (`applyAll`) one after another up to the first one whose value has the wrong
type. -/
theorem applyAll_cases (source : String) (c : Config) (entries : Assoc Value) :
    ((∀ e ∈ entries, ¬ WrongType e.1 e.2) ∧ ∃ c', (applyAll source c entries).result = .ok c') ∨
      ∃ f, FirstWrong entries f ∧ (applyAll source c entries).result = .error f := by
  induction entries generalizing c with
  | nil => exact .inl ⟨by simp, c, rfl⟩
  | cons e rest ih =>
    obtain ⟨name, value⟩ := e
    rw [applyAll, Logged.bind]
    rcases applyOption_cases source c name value with
      ⟨hright, c₁, hc₁⟩ | ⟨setter, hrefuses, hc⟩
    · rw [hc₁]
      rcases ih c₁ with ⟨hrest, c', hc'⟩ | ⟨f, hfirst, hf⟩
      · exact .inl ⟨List.forall_mem_cons.2 ⟨hright, hrest⟩, c', hc'⟩
      · -- The first wrong option of the rest is the first of all, as this one was applied.
        obtain ⟨before, name', value', after, setter, rfl, hbefore, hwrong⟩ := hfirst
        exact .inr ⟨f, ⟨(name, value) :: before, name', value', after, setter, rfl,
          List.forall_mem_cons.2 ⟨hright, hbefore⟩, hwrong⟩, hf⟩
    · rw [hc]
      exact .inr ⟨_, ⟨[], name, value, rest, setter, rfl, by simp, hrefuses, rfl⟩, rfl⟩

/-- The options (`ofOptions`) of a source give settings, or the first one whose value has the wrong
type is refused. -/
theorem ofOptions_cases (source : String) (entries : Assoc Value) :
    ((∀ e ∈ entries, ¬ WrongType e.1 e.2) ∧ ∃ c, (ofOptions source entries).result = .ok c) ∨
      ∃ f, FirstWrong entries f ∧ (ofOptions source entries).result = .error f :=
  applyAll_cases source standard entries

end Parlance.Config
