import Parlance.Code.Module
import Parlance.Proofs.Code.Image
import Parlance.Proofs.Message.Walking
import Parlance.Proofs.Results

/-!
# The body of an accessor gives back the message

A message that is read has a body in every scope that declares its names. The body ends by giving
back an expression, and its text is one complete expression whose tree is the image of the message
(`read_bodyOf`).
-/

namespace Parlance.Code

open Parlance.Grammar Parlance.Message

/-! ## The statements of a body -/

variable {scope : Scope}

/-- The placeholder (`placeholder?`) of a name has the name. -/
theorem name_of_placeholder? {name : String} {p : Resolved}
    (h : scope.placeholder? name = some p) : p.name = name := by
  rw [Scope.placeholder?] at h
  simpa using List.find?_some h

/-- The placeholders to be formatted (`formattedPlaceholders?`) are found, and each has a parameter.
-/
private theorem exists_formattedPlaceholders {usages : Usages}
    (h : Covers scope (usages.map (·.1))) :
    ∃ ps, formattedPlaceholders? scope usages = some ps ∧
      ∀ p ∈ ps, ∃ x, scope.parameter? p.name = some x := by
  induction usages with
  | nil => exact ⟨[], rfl, by simp⟩
  | cons u rest ih =>
    obtain ⟨name, roles⟩ := u
    obtain ⟨⟨p, hp⟩, hparameter⟩ := h name (by simp)
    obtain ⟨ps, hps, hall⟩ := ih (h.subset (by simp))
    rw [formattedPlaceholders?]
    split
    · -- a count is written out, and needs formatting only if its placeholder says so
      rw [hp, Option.bind_some, hps, Option.map_some]
      refine ⟨_, rfl, ?_⟩
      split
      · exact List.forall_mem_cons.2 ⟨by rwa [name_of_placeholder? hp], hall⟩
      · exact hall
    · exact ⟨ps, hps, hall⟩

/-- Placeholders that have parameters have statements that format them (`formatStatement?`). -/
private theorem exists_formats {ps : List Resolved}
    (h : ∀ p ∈ ps, ∃ x, scope.parameter? p.name = some x) :
    ∃ formats, ps.mapM (formatStatement? scope) = some formats := by
  refine exists_mapM_eq_some fun p hp => ?_
  obtain ⟨x, hx⟩ := h p hp
  rw [formatStatement?, hx]
  exact ⟨_, rfl⟩

/-- A body (`bodyOf`) formats the placeholders that need it and gives back the expression of the
message. -/
theorem bodyOf_eq {texts : String → Prop} {m : Message} (hwell : WellFormed texts m)
    (hnesting : nestingOfNodes m ≤ ReadingOptions.defaultLimit.toNat)
    (hcovers : Covers scope (messageNames m)) :
    ∃ formats e, messageExpr? scope m = some e ∧
      bodyOf scope m = .ok (formats ++ [.giveBack e]) := by
  obtain ⟨e, he⟩ := messageExpr?_of_covers hwell hcovers
  have hcomplete := complete_collect [] hnesting
  -- the body looks up every name that is used, and all of these stand in the message
  have husages : Covers scope ((Usages.collect [] m).1.map (·.1)) := by
    refine hcovers.subset fun name hname => ?_
    obtain ⟨use, hnone | huse⟩ := ((tallies_nil.collect hcomplete).mem_iff name).1 hname
    · exact hnone.elim
    · exact (mem_messageNames_iff name m).2 ⟨use, huse⟩
  obtain ⟨ps, hps, hparameters⟩ := exists_formattedPlaceholders husages
  obtain ⟨formats, hformats⟩ := exists_formats hparameters
  refine ⟨formats, e, he, ?_⟩
  simp [bodyOf, hcomplete, hps, hformats, he]

/-- The indentation of a body (`bodyIndent`) consists of blanks. -/
private theorem isIndent_bodyIndent : IsIndent bodyIndent := isIndent_step.append isIndent_step

/-- A message that is read has a body (`bodyOf`) in a scope that declares its names. What the body
gives back is written as one complete expression, whose tree is the image of the message. -/
theorem read_bodyOf {options : ReadingOptions} {source : String} {m : Message}
    (hparse : parse options source = .ok m) (hlimit : options.limit ≤ ReadingOptions.defaultLimit)
    (scope : Scope) (hdeclares : Declares scope (messageNames m)) :
    ∃ formats e s, bodyOf scope m = .ok (formats ++ [.giveBack e]) ∧
      (Statement.giveBack e).print bodyIndent = "return " ++ s ∧
      read s = some (image scope m) := by
  obtain ⟨hwell, hnesting⟩ := wellFormed_of_parse hparse
  obtain ⟨formats, e, he, hbody⟩ := bodyOf_eq hwell
    (hnesting.trans (Int.toNat_le_toNat hlimit)) hdeclares.1
  obtain ⟨hreadable, htree⟩ := tree_messageExpr hwell hdeclares he
  refine ⟨formats, e, e.print bodyIndent, hbody, rfl, ?_⟩
  rw [← htree]
  exact read_print hreadable isIndent_bodyIndent

/-- A scope with a count that is formatted and a time. -/
def arrivalScope : Scope where
  placeholders :=
    [⟨⟨"n", some .int, some "compact", none, [], none⟩, .int, true, false, false, false, false⟩,
     ⟨.bare "t", .dateTime, false, false, true, false, false⟩]
  parameters := [("n", "count"), ("t", "arrival")]
  formats := true

/-- Quoted text, and a plural that writes out its count and a time. -/
def arrivalMessage : Message :=
  [.text "\"Guests\": " ⟨0, 10⟩,
   .choice .plural "n"
    [.mk (.exact 0) [.text "none" ⟨23, 27⟩] ⟨20, 28⟩,
     .mk .other [.reference "n" ⟨34, 37⟩, .text " at " ⟨37, 41⟩,
      .argument "t" .time none ⟨41, 49⟩] ⟨28, 50⟩] ⟨10, 51⟩]

/-- The tree that the message stands for in the scope. -/
def arrivalTree : Tree :=
  .sum (.text "\"Guests\": ")
    (.call (.attribute (.name "runtime") "plural")
      [.name "count", .attribute (.name "self") "locale_name"]
      [("exact", .dict [(.number 0, .text "none")]),
       ("other", .sum (.sum (.name "count_formatted") (.text " at "))
        (.call (.attribute (.name "runtime") "format_datetime_skeleton")
          [.name "arrival", .constant "None", .attribute (.name "self") "locale_name"]
          [("time", .constant "True")]))])

/-- Quotes within text, an exact branch, and a count and a time in the branch `other`. -/
theorem read_bodyOf_arrivalMessage :
    parse .standard "\"Guests\": {n,plural,=0{none}other{{n} at {t,time}}}" =
      .ok arrivalMessage ∧
    Declares arrivalScope (messageNames arrivalMessage) ∧
    ∃ formats e s, bodyOf arrivalScope arrivalMessage = .ok (formats ++ [.giveBack e]) ∧
      (Statement.giveBack e).print bodyIndent = "return " ++ s ∧ read s = some arrivalTree := by
  have hparse : parse .standard "\"Guests\": {n,plural,=0{none}other{{n} at {t,time}}}" =
      .ok arrivalMessage := by decide +kernel
  have hnames : messageNames arrivalMessage = ["n", "n", "t"] := by decide +kernel
  have hdeclares : Declares arrivalScope (messageNames arrivalMessage) := by
    rw [hnames]
    constructor
    · intro name hname
      have hor : name = "n" ∨ name = "t" := by simpa using hname
      rcases hor with rfl | rfl <;> exact ⟨⟨_, rfl⟩, _, rfl⟩
    · decide
  -- the tree is computed, so the general theorem gives this one tree
  have himage : image arrivalScope arrivalMessage = arrivalTree := by rfl
  have hread := read_bodyOf hparse (by decide) arrivalScope hdeclares
  rw [himage] at hread
  exact ⟨hparse, hdeclares, hread⟩

end Parlance.Code
