import Parlance.Proofs.Placeholder.Inference

/-!
# Inferring again

The placeholders that are inferred may be declared with the types that they were given. That changes
nothing: the types suit the roles that they came from, the formats are let through as they were, and
no name is left to be found in the messages only. So inference from the same messages gives the same
placeholders in the same order, now all of them declared (`inferPlaceholders_asDeclared`).
-/

namespace Parlance

namespace Resolved

/-- The declaration of a placeholder with the type that was inferred. -/
def asDeclared (p : Resolved) : Declared := { p.declared with type := some p.type }

/-- A placeholder as it is resolved once it is declared with its type. -/
def restated (p : Resolved) : Resolved :=
  { p with declared := p.asDeclared, synthesized := false }

end Resolved

section

variable {uses : Use → Prop} {d : Declared} {isNew : Prop} {p : Resolved}

/-- A placeholder may be declared with the type that was inferred (`asDeclared`). -/
private theorem Settled.admissible_asDeclared (hp : Settled uses d isNew p) (h : Admissible uses d)
    : Admissible uses p.asDeclared := by
  obtain rfl := hp.declared
  have htype : ∀ t, HasType uses p.asDeclared t ↔ t = p.type := fun t => hasType_iff_of_some rfl
  refine ⟨h.oneRole, fun r t hr ht => ?_, fun hdate => ?_, fun t ht hhas => ?_⟩
  · cases ht
    exact hp.type.suits h hr
  · exact h.dateFormat ((htype _).1 hdate ▸ hp.type)
  · exact h.numberFormat t ht ((htype t).1 hhas ▸ hp.type)

/-- A placeholder that is declared with its type is settled (`Settled`) as it was. -/
theorem Settled.restated (hp : Settled uses d isNew p) :
    Settled uses p.asDeclared False p.restated where
  declared := rfl
  type := .declared rfl
  plural := hp.plural
  select := hp.select
  dateTime := hp.dateTime
  dateFormatting := hp.dateFormatting
  synthesized := by simp [Resolved.restated]

end

section

variable {usages : Usages} {occurs : String → Use → Prop} (htallies : Tallies usages occurs)
  {key : String} {declared : List Declared} {template : List Resolved}
  (h : Inferred.templateOf key declared usages = .ok template)

include htallies h

/-- With every placeholder of the template declared (`asDeclared`), no other name is used. -/
theorem undeclaredNames_asDeclared :
    Inferred.undeclaredNames (template.map Resolved.asDeclared) usages = [] := by
  refine List.eq_nil_iff_forall_not_mem.2 fun name hname => ?_
  obtain ⟨hnot, huse⟩ := (mem_undeclaredNames_iff htallies _ name).1 hname
  have hsame : (template.map Resolved.asDeclared).map (·.name) = template.map (·.name) :=
    List.map_map
  rw [hsame, names_templateOf htallies h, List.mem_append, not_or,
    mem_undeclaredNames_iff htallies] at hnot
  exact hnot.2 ⟨hnot.1, huse⟩

/-- The template (`templateOf`) of its own placeholders is the same, all of them declared. -/
theorem templateOf_asDeclared :
    Inferred.templateOf key (template.map Resolved.asDeclared) usages =
      .ok (template.map Resolved.restated) := by
  refine (templateOf_eq_ok_iff htallies key _).2
    ⟨template.map Resolved.restated, [], (List.append_nil _).symm, ?_, ?_⟩
  · rw [List.forall₂_map_left_iff, List.forall₂_map_right_iff, List.forall₂_same]
    intro p hp
    obtain ⟨d, isNew, hadmissible, hsettled⟩ := exists_admissible_of_mem_templateOf htallies h hp
    exact ⟨hsettled.admissible_asDeclared hadmissible, hsettled.restated⟩
  · rw [undeclaredNames_asDeclared htallies h]
    exact .nil

end

/-- Inference is idempotent: from the same messages and the placeholders that it gave, declared in
their order with their types, it gives just these placeholders again, and none of them is new. Each
has its name, type, roles, format and need of formatting as before. -/
theorem inferPlaceholders_asDeclared {κ : Type} {key : String} {declared : List Declared}
    {messages : List Message} {inferred : Inferred κ}
    (h : inferPlaceholders key declared [] messages = .ok inferred) :
    ∃ again : Inferred κ,
      inferPlaceholders key
          (inferred.template.map fun p => { p.declared with type := some p.type }) [] messages =
        .ok again ∧
      again.overrides = [] ∧
      again.template = inferred.template.map fun p =>
        { p with declared := { p.declared with type := some p.type }, synthesized := false } := by
  obtain ⟨usages, husages, htemplate, -⟩ := inferPlaceholders_eq_ok_iff.1 h
  have hagain := templateOf_asDeclared (tallies_usagesOf husages) htemplate
  exact ⟨⟨inferred.template.map Resolved.restated, []⟩,
    inferPlaceholders_eq_ok_iff.2 ⟨usages, husages, hagain, rfl⟩, rfl, rfl⟩

/-- A message that selects by the guest and writes out the day, which has a format of its own. -/
def seatingMessage : Message :=
  [.choice .select "guest" [.mk .other [.reference "day" ⟨21, 26⟩] ⟨15, 27⟩] ⟨0, 28⟩]

def seatingDeclared : List Declared := [⟨"day", some .dateTime, some "jms", none, [], none⟩]

/-- The guest is new at first, a text since it is selected by, and is declared the second time. -/
theorem inferPlaceholders_asDeclared_seating :
    ∃ inferred again : Inferred String,
      inferPlaceholders "seating" seatingDeclared [] [seatingMessage] = .ok inferred ∧
      inferred.template.map (fun p => (p.name, p.synthesized)) =
        [("day", false), ("guest", true)] ∧
      inferPlaceholders "seating"
          (inferred.template.map fun p => { p.declared with type := some p.type }) []
          [seatingMessage] = .ok again ∧
      again.template = inferred.template.map fun p =>
        { p with declared := { p.declared with type := some p.type }, synthesized := false } := by
  have hfirst : (inferPlaceholders (κ := String) "seating" seatingDeclared []
      [seatingMessage]).map (fun inferred =>
        inferred.template.map fun p => (p.name, p.synthesized)) =
      .ok [("day", false), ("guest", true)] := by decide +kernel
  obtain ⟨inferred, h, hnames⟩ := map_eq_ok_iff.1 hfirst
  -- the general theorem gives the second inference, so it need not be computed
  obtain ⟨again, hagain, -, htemplate⟩ := inferPlaceholders_asDeclared h
  exact ⟨inferred, again, h, hnames, hagain, htemplate⟩

end Parlance
