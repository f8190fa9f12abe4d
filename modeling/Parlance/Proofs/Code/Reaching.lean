import Parlance.Code.Module
import Parlance.Proofs.Message.Visiting
import Parlance.Proofs.Placeholder.Failing
import Parlance.Proofs.Placeholder.Inference

/-!
# Nothing lies too deep in a message that was read

Reading allows 32 levels of choices, and visiting allows 98 levels of parts: a choice, its branch
and the branch's message for each level, the message around all and a node inside. So visitors that
keep to the usual depth get to the end of every message that was read (`visits_all`), and neither
the inference of placeholders nor the writing of a module is refused for its depth
(`reached_of_isRead`).
-/

namespace Parlance

open Parlance.Code Parlance.Grammar

/-- Whether a message was read from some text, with choices nested as deeply as they usually may. -/
def Message.IsRead (m : Message) : Prop :=
  ∃ options text, options.limit = ReadingOptions.defaultLimit ∧ Message.parse options text = .ok m

/-- A message that was read (`IsRead`) is nested no deeper than messages are. -/
private theorem Message.IsRead.nesting_le {m : Message} (h : m.IsRead) :
    nestingOfNodes m ≤ ReadingOptions.defaultLimit.toNat := by
  obtain ⟨options, text, hlimit, hparse⟩ := h
  exact hlimit ▸ (wellFormed_of_parse hparse).2

/-! ## Visitors get to the end -/

section

variable {m : Message} (h : m.IsRead)

include h

/-- A walk of the usual depth through a message that was read visits its whole outline (`Outline`),
in which nothing lies too deep. -/
private theorem exists_outline_visited (isLeaf : PartClass → Bool) :
    ∃ places, Outline isLeaf (.message m) places ∧
      (Walk.ofPart isLeaf Walk.defaultDepth (.message m)).visited = places.map (·.part) ∧
      ∀ p ∈ places, ¬ p.TooDeep isLeaf Walk.defaultDepth := by
  obtain ⟨places, houtline, hwalks⟩ := exists_traced isLeaf (.message m)
  have hcomplete := (Walk.complete_iff _).1 (complete_ofMessage isLeaf h.nesting_le)
  refine ⟨places, houtline, (hwalks Walk.defaultDepth).visited_eq hcomplete, fun p hp hdeep => ?_⟩
  have hstop := (hwalks Walk.defaultDepth).refusal_eq_none_iff.1 hcomplete p hp
  rw [Place.stop?, if_pos ⟨hdeep.1, Int.ofNat_lt.1 hdeep.2⟩] at hstop
  cases hstop

/-- A visitor of the usual depth is never refused for the depth of a message that was read, whatever
it has visited before (`afterVisits`), and visits all of it if its calls last. -/
theorem visits_all (isLeaf : PartClass → Bool) (costs : CallCosts) (calls : Nat)
    (earlier : List (Nat × Part)) :
    let v := Visitor.afterVisits isLeaf costs (Visitor.ofLimit Walk.defaultDepth) earlier
    let out := Visitor.visitPart isLeaf costs (.message m) calls v
    (∀ limit, out.2 ≠ .error (.tooDeep limit)) ∧
    (costs.Lasts Walk.defaultDepth calls → ∃ places, Outline isLeaf (.message m) places ∧
      out.1.visited = v.visited ++ places.map (·.part) ∧ out.2 = .ok (.message m)) := by
  intro v out
  obtain ⟨places, houtline, -, hnone⟩ := exists_outline_visited h isLeaf
  obtain ⟨places', t, houtline', ht, hvisits⟩ :=
    exists_tour isLeaf costs Walk.defaultDepth calls (.message m)
  obtain rfl := houtline'.unique houtline
  rw [show DepthGuard.effectiveLimit Walk.defaultDepth = Walk.defaultDepth by decide] at ht
  obtain ⟨-, hout⟩ := hvisits earlier
  constructor
  · -- a refusal is that of a place, and none lies too deep
    intro limit htooDeep
    obtain ⟨before, p, after, rfl, -, hp⟩ := ht.exists_refused (hout.refusal_eq htooDeep)
    exact hnone p (by simp) (Place.tooDeep_of_fault? hp).1
  · intro hlasts
    -- with calls to spare only the depth could refuse
    have hdone : t.refusal = none :=
      (hlasts.refusal_eq_iff houtline ht).2.2 fun ⟨p, hp, hdeep⟩ => hnone p hp hdeep
    refine ⟨_, houtline, hout.visited.trans (congrArg _ (ht.visited_eq hdone)), ?_⟩
    exact hout.result.trans (by rw [hdone, Option.elim_none])

end

/-- The calls of a plain visitor of the usual depth last, with a good part of them to spare. -/
example : CallCosts.plain.Lasts Walk.defaultDepth (callLimit.toNat / 4) := by decide

/-! ## What uses are collected from -/

/-- Where no leaf holds anything (`Part.held`), nothing is left out by not going into leaves. -/
private theorem Outline.of_held_eq_nil {isLeaf : PartClass → Bool} {root : Part}
    {places : List Place}
    (hheld : ∀ p : Part, isLeaf p.classOf = true → p.held = []) (h : Outline isLeaf root places) :
    Outline (fun _ => false) root places := by
  have hstands : ∀ path p q,
      StandsAt isLeaf p path q ↔ StandsAt (fun _ => false) p path q := by
    intro path
    induction path with
    | nil => simp [standsAt_nil_iff]
    | cons i path ih =>
      intro p q
      rw [standsAt_cons_iff, standsAt_cons_iff]
      cases hleaf : isLeaf p.classOf with
      -- a step into a leaf leads nowhere, whether it is allowed or not
      | true => simp [hheld p hleaf]
      | false => simp [ih]
  exact ⟨h.ordered, fun p => (h.mem_iff p).trans (hstands _ _ _)⟩

/-- What `Usages` takes for leaves holds nothing. -/
private theorem held_eq_nil_of_isLeaf (p : Part) (h : Usages.isLeaf p.classOf = true) : p.held = []
    := by
  cases p with
  | message => cases h
  | branch => cases h
  | node n =>
    cases n with
    | choice kind => cases kind <;> cases h
    | text | reference | argument => rfl

/-- The uses in a message that was read (`IsRead`) are collected from all of its parts. -/
private theorem collect_of_isRead {m : Message} (h : m.IsRead) :
    ∃ places, Outline (fun _ => false) (.message m) places ∧ ∀ usages,
      Usages.collect usages m = (Usages.recordParts usages (places.map (·.part)), true) := by
  obtain ⟨places, houtline, hvisited, -⟩ := exists_outline_visited h Usages.isLeaf
  refine ⟨places, houtline.of_held_eq_nil held_eq_nil_of_isLeaf, fun usages => ?_⟩
  exact Prod.ext (by rw [← hvisited]; rfl) (complete_collect usages h.nesting_le)

/-! ## What a module is written from -/

/-- Whether a failure is another than that something lies too deep. -/
def Failure.NotDepth (f : Failure) : Prop := ∀ limit, f ≠ .fault (.depthExceeded limit)

namespace Code

variable {kind : Failure → Prop} {plan : Plan}

/-- `joinMapped f` fails as `f` does for one of the members. -/
private theorem failsAs_joinMapped {f : Member → Except Failure String} {members : List Member}
    (h : ∀ m ∈ members, FailsAs kind (f m)) : FailsAs kind (joinMapped f members) := by
  induction members with
  | nil => exact failsAs_ok ""
  | cons m rest ih =>
    obtain ⟨hm, hrest⟩ := List.forall_mem_cons.1 h
    rw [joinMapped]
    exact hm.bind fun s => (ih hrest).map

/-- A body (`bodyOf`) fails for its depth only if the walk through the message does. -/
private theorem failsAs_bodyOf {m : Message} (hcomplete : (Usages.collect [] m).2 = true)
    (scope : Scope) : FailsAs Failure.NotDepth (bodyOf scope m) := by
  rw [bodyOf]
  simp only [hcomplete, Bool.not_true, Bool.false_eq_true, if_false]
  split
  · exact failsAs_ok _
  · exact failsAs_error nofun

/-- The head of an accessor (`accessorHead`) does not fail for any depth. -/
private theorem failsAs_accessorHead (m : Member) (isAbstract : Bool) :
    FailsAs Failure.NotDepth (accessorHead plan m isAbstract) := by
  rw [accessorHead]
  split
  · exact failsAs_ok _
  · refine FailsAs.map ?_
    rw [parameterList]
    split
    · exact failsAs_error nofun
    · exact failsAs_ok _

/-- Nor does the base class (`baseClassBlock`). -/
private theorem failsAs_baseClassBlock : FailsAs Failure.NotDepth (baseClassBlock plan) := by
  -- the class to fall back to is looked up, which fails in another way
  have hdefault : FailsAs Failure.NotDepth (defaultClass plan) := by
    rw [defaultClass]
    split
    · exact failsAs_error nofun
    · split
      · exact failsAs_ok _
      · exact failsAs_ok _
      · exact failsAs_error nofun
  rw [baseClassBlock]
  refine FailsAs.bind ?_ fun fallback => FailsAs.map (failsAs_joinMapped fun m _ => ?_)
  · split
    · exact failsAs_ok _
    · exact hdefault.map
  · exact (failsAs_accessorHead m true).map

/-- The classes of locales (`localeClassBlocks`) do not, if the bodies do not. -/
private theorem failsAs_localeClassBlocks
    (hbodies : ∀ m ∈ plan.members, ∀ l, FailsAs Failure.NotDepth (statementsFor plan l m))
    (locales : List Locale) : FailsAs Failure.NotDepth (localeClassBlocks plan locales) := by
  induction locales with
  | nil => exact failsAs_ok []
  | cons l rest ih =>
    rw [localeClassBlocks, localeClassBlock]
    refine FailsAs.bind (FailsAs.bind (failsAs_joinMapped fun m hm => ?_) fun members => ?_)
      fun s => ih.map
    · -- the members of the class, and then its head
      exact (hbodies m hm l).bind fun statements => (failsAs_accessorHead m false).map
    · split
      · exact failsAs_error nofun
      · exact failsAs_ok _

/-- Nor do the tables (`factoriesBlock`). -/
private theorem failsAs_factoriesBlock : FailsAs Failure.NotDepth (factoriesBlock plan) := by
  refine FailsAs.map (failsAs_mapM fun l _ => ?_)
  rw [factoryEntry]
  split
  · exact failsAs_error nofun
  · exact failsAs_ok _

/-- Writing a module (`emit`) fails for its depth only if a walk through a message does. -/
private theorem failsAs_emit (h : ∀ member ∈ plan.members, ∀ locale m,
      member.entry.messageFor? locale = some m → (Usages.collect [] m).2 = true) :
    FailsAs Failure.NotDepth (emit plan) := by
  have hbodies : ∀ member ∈ plan.members, ∀ locale,
      FailsAs Failure.NotDepth (statementsFor plan locale member) := by
    intro member hmember locale
    rw [statementsFor]
    split
    · exact failsAs_ok _
    · next m hmessage => exact failsAs_bodyOf (h member hmember locale m hmessage) _
  exact (failsAs_baseClassBlock.bind fun base =>
    (failsAs_localeClassBlocks hbodies _).bind fun classes => failsAs_factoriesBlock.map).map

end Code

/-- Inference from messages that were read (`IsRead`) is not refused for their depth. -/
private theorem failsAs_inferPlaceholders_of_isRead {κ : Type} {messages : List Message}
    (h : ∀ m ∈ messages, m.IsRead) (key : String) (declared : List Declared)
    (localeDeclared : List (κ × List Declared)) :
    FailsAs (Breach key) (inferPlaceholders key declared localeDeclared messages) := by
  obtain ⟨usages, husages⟩ := exists_usagesOf (fun m hm => (h m hm).nesting_le) []
  refine failsAs_inferPlaceholders (fun f hf => hf) ?_ declared localeDeclared
  rw [husages]
  exact failsAs_ok usages

/-- Whether nothing in some messages lies too deep for visitors of the usual depth. -/
structure Reached (messages : List Message) : Prop where
  /-- No visitor is refused for its depth, and every visitor whose calls last visits all of a
  message, in order, whatever it has visited before. -/
  visited : ∀ m ∈ messages, ∀ isLeaf costs calls earlier,
    let v := Visitor.afterVisits isLeaf costs (Visitor.ofLimit Walk.defaultDepth) earlier
    let out := Visitor.visitPart isLeaf costs (.message m) calls v
    (∀ limit, out.2 ≠ .error (.tooDeep limit)) ∧
    (costs.Lasts Walk.defaultDepth calls → ∃ places, Outline isLeaf (.message m) places ∧
      out.1.visited = v.visited ++ places.map (·.part) ∧ out.2 = .ok (.message m))
  /-- Uses are collected from all parts of a message, leaves or not. -/
  collected : ∀ m ∈ messages, ∃ places, Outline (fun _ => false) (.message m) places ∧
    ∀ usages, Usages.collect usages m = (Usages.recordParts usages (places.map (·.part)), true)
  /-- Inference from the messages is not refused for their depth. -/
  inferred : ∀ (κ : Type) (key : String) (declared : List Declared)
    (localeDeclared : List (κ × List Declared)) (limit : Int),
    inferPlaceholders key declared localeDeclared messages ≠ .error (.depthExceeded limit)
  /-- Writing a module of the messages is not refused for their depth. -/
  written : ∀ plan : Plan, (∀ member ∈ plan.members, ∀ locale m,
    member.entry.messageFor? locale = some m → m ∈ messages) →
    ∀ limit, emit plan ≠ .error (.fault (.depthExceeded limit))

/-- Nothing lies too deep in messages that were read (`IsRead`). -/
theorem reached_of_isRead {messages : List Message} (h : ∀ m ∈ messages, m.IsRead) :
    Reached messages where
  visited m hm := visits_all (h m hm)
  collected m hm := collect_of_isRead (h m hm)
  inferred κ key declared localeDeclared limit herror := by
    cases failsAs_inferPlaceholders_of_isRead h key declared localeDeclared _ herror
  written plan hplan limit herror := by
    refine failsAs_emit (fun member hmember locale m hmessage => ?_) _ herror limit rfl
    exact complete_collect [] (h m (hplan member hmember locale m hmessage)).nesting_le

/-- A message with a choice inside a choice. -/
def seatsText : String :=
  "\x7bn,plural,=0\x7b\x7bwho,select,other\x7bSorry\x7d\x7d\x7dother\x7b\x7bn\x7d\x7d\x7d"

def seatsMessage : Message :=
  [.choice .plural "n"
    [.mk (.exact 0) [.choice .select "who" [.mk .other [.text "Sorry" ⟨31, 36⟩] ⟨25, 37⟩] ⟨13, 38⟩]
      ⟨10, 39⟩,
     .mk .other [.reference "n" ⟨45, 48⟩] ⟨39, 49⟩] ⟨0, 50⟩]

/-- A plural and a selection in it, which were read (`IsRead`). -/
theorem reached_of_isRead_seats :
    Message.parse .standard seatsText = .ok seatsMessage ∧
    (∀ m ∈ [seatsMessage], m.IsRead) ∧ Reached [seatsMessage] := by
  have hparse : Message.parse .standard seatsText = .ok seatsMessage := by decide +kernel
  have hread : ∀ m ∈ [seatsMessage], m.IsRead :=
    List.forall_mem_singleton.2 ⟨.standard, seatsText, rfl, hparse⟩
  exact ⟨hparse, hread, reached_of_isRead hread⟩

end Parlance
