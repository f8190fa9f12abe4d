import Parlance.Proofs.Code.Overriding
import Parlance.Proofs.Code.Scoping

/-!
# Accessors that refuse

The accessor of an entry in the class of a locale refuses if its body begins with the statement that
raises. It does so if and only if the entry has no message in the locale
(`refuses_iff_of_accessor`): a body that gives a message back begins with another statement, and no
variable that it sets looks like that one. In the text of a module the class of each locale has one
body for each entry (`exists_bodies_of_emit`).
-/

namespace Parlance.Code

open Parlance.Text

/-! ## Bodies -/

/-- How a statement begins that refuses. -/
def refusalOpening : String := "raise NotImplementedError("

/-- Whether the body of an accessor begins with a statement that refuses. -/
def Refuses (body : String) : Prop := (bodyIndent ++ refusalOpening).toList <+: body.toList

/-- The body of an accessor. -/
def bodyText (statements : List Statement) : String :=
  "\n".intercalate (statements.map fun s => bodyIndent ++ s.print bodyIndent) ++ "\n"

/-- A body (`bodyText`) begins with its first statement. -/
private theorem exists_append_of_bodyText (s : Statement) (rest : List Statement) :
    ∃ more, (bodyText (s :: rest)).toList =
      bodyIndent.toList ++ ((s.print bodyIndent).toList ++ more) := by
  cases rest with
  | nil =>
    refine ⟨['\n'], ?_⟩
    simp [bodyText]
  | cons second others =>
    refine ⟨'\n' :: (bodyText (second :: others)).toList, ?_⟩
    simp [bodyText, String.intercalate_cons_cons]

/-- Whether a body refuses (`Refuses`) is seen from its first statement. -/
private theorem refuses_iff_of_append {body : String} {first more : List Char}
    (h : body.toList = bodyIndent.toList ++ (first ++ more)) :
    Refuses body ↔ refusalOpening.toList <+: first ++ more := by
  rw [Refuses, h, String.toList_append, List.prefix_append_right_inj]

/-- A statement that gives a value back does not begin like one that refuses (`Refuses`). -/
private theorem not_refuses_giveBack (value : Expr) (rest : List Statement) :
    ¬ Refuses (bodyText (.giveBack value :: rest)) := by
  obtain ⟨more, hbody⟩ := exists_append_of_bodyText (.giveBack value) rest
  intro hrefuses
  have hprefix := (refuses_iff_of_append hbody).1 hrefuses
  have hopening : refusalOpening.toList = 'r' :: 'a' :: "ise NotImplementedError(".toList := rfl
  have hreturn : (Statement.print bodyIndent (.giveBack value)).toList =
      'r' :: 'e' :: ("turn ".toList ++ (value.print bodyIndent).toList) :=
    String.toList_append
  -- `raise` and `return` differ in their second character
  rw [hopening, hreturn, List.cons_append, List.cons_append, List.cons_prefix_cons,
    List.cons_prefix_cons] at hprefix
  exact absurd hprefix.2.1 (by decide)

/-- A statement that refuses (`Refuses`) does begin so. -/
private theorem refuses_refuse (text : String) : Refuses (bodyText [.refuse text]) := by
  obtain ⟨more, hbody⟩ := exists_append_of_bodyText (.refuse text) []
  have hprint : (Statement.print bodyIndent (.refuse text)).toList =
      refusalOpening.toList ++ (stringLiteral text ++ ")").toList := by
    rw [← String.toList_append, ← String.append_assoc]
    rfl
  rw [refuses_iff_of_append hbody, hprint, List.append_assoc]
  exact List.prefix_append _ _

/-- A statement that sets a variable does not begin like one that refuses (`Refuses`), if the
variable is longer than the first word of that and has no blank in it. -/
private theorem not_refuses_assign {target : String} (hlong : 5 < target.length)
    (hblank : ' ' ∉ target.toList) (value : Expr) (rest : List Statement) :
    ¬ Refuses (bodyText (.assign target value :: rest)) := by
  obtain ⟨more, hbody⟩ := exists_append_of_bodyText (.assign target value) rest
  intro hrefuses
  have hprint : (Statement.print bodyIndent (.assign target value)).toList =
      target.toList ++ (" = " ++ value.print bodyIndent).toList := by
    rw [← String.toList_append, ← String.append_assoc]
    rfl
  rw [refuses_iff_of_append hbody, hprint, List.append_assoc] at hrefuses
  obtain ⟨after, heq⟩ := hrefuses
  -- behind its first word the statement that refuses has a blank
  have hword : (refusalOpening.toList ++ after)[5]? = some ' ' := rfl
  rw [heq, List.getElem?_append_left (by rwa [String.length_toList])] at hword
  exact hblank (List.mem_of_getElem? hword)

/-! ## Accessors -/

/-- A body (`bodyOf`) that gives a message back does not refuse. -/
private theorem not_refuses_of_bodyOf {scope : Scope} {message : Message}
    {statements : List Statement}
    (hvariables : ∀ p ∈ scope.placeholders, IsVariable (scope.parameterOf p.name))
    (h : bodyOf scope message = .ok statements) : ¬ Refuses (bodyText statements) := by
  obtain ⟨_, ps, value, hps, _, heq⟩ := eq_of_bodyOf h
  rw [heq]
  cases ps with
  | nil => exact not_refuses_giveBack value []
  | cons p rest =>
    obtain ⟨u, _, _, hplaceholder, _⟩ :=
      (mem_formattedPlaceholders_iff hps).1 (List.mem_cons_self (a := p))
    have hvariable := hvariables p (List.mem_of_find?_eq_some hplaceholder)
    -- a local variable is too long for the first word of a refusal
    apply not_refuses_assign
    · have hlength : "_formatted".length = 10 := by decide
      rw [formattedName, String.length_append]
      omega
    · intro hblank
      cases isIdentifierPart_of_mem (isVariable_formattedName hvariable).1 ' ' hblank

section

variable {entries : List Entry} {locales : List Locale} {templateLocale : Locale}
  {options : ModuleOptions} {plan : Plan}
  (h : Plan.make entries locales templateLocale options = .ok plan)

include h

/-- An accessor (`accessor`) has a head and a body, and the body refuses if and only if the entry
has no message in the locale. -/
theorem refuses_iff_of_accessor {m : Member} (hm : m ∈ plan.members) {l : Locale} {text : String}
    (htext : accessor plan l m = .ok text) :
    ∃ body, text = (plan.signature m).print false ++ body ∧
      (Refuses body ↔ m.entry.messageFor? l = none) := by
  obtain ⟨statements, hstatements, hmore⟩ := bind_eq_ok_iff.1 htext
  obtain ⟨head, hhead, hwritten⟩ := map_eq_ok_iff.1 hmore
  refine ⟨bodyText statements, ?_, ?_⟩
  · rw [← hwritten, eq_print_of_accessorHead hhead, bodyText, String.append_assoc]
  · rw [statementsFor] at hstatements
    cases hmessage : m.entry.messageFor? l with
    | none =>
      rw [hmessage] at hstatements
      cases hstatements
      exact iff_of_true (refuses_refuse _) rfl
    -- what a body looks up is declared, so it does not stop short
    | some message =>
      rw [hmessage] at hstatements
      obtain ⟨_, hdeclared⟩ := declares_of_make h hm l
      refine iff_of_false (not_refuses_of_bodyOf ?_ hstatements) (Option.some_ne_none message)
      intro p hp
      apply hdeclared
      rw [← m.entry.map_name_placeholdersFor l]
      exact List.mem_map_of_mem hp

end

/-! ## Classes -/

/-- Whether the class of a locale stands in the text of a module, with the accessor of each member
put together from its head and a body. -/
def HasClass (source : String) (plan : Plan) (l : Locale) (bodies : List String) : Prop :=
  List.Forall₂ (fun m body => accessor plan l m = .ok ((plan.signature m).print false ++ body))
    plan.members bodies ∧
  ∃ name before heading after, plan.className? l = some name ∧
    (s!"class {name}({plan.options.outputClass}):\n").toList <+: heading.toList ∧
    source = before ++ dropFinalNewlines (heading ++ String.join (List.zipWith
      (fun m body => (plan.signature m).print false ++ body) plan.members bodies)) ++ after

/-- In the text of a module the class of each locale has a body for each entry, which refuses
(`Refuses`) if and only if the entry has no message in the locale. -/
theorem exists_bodies_of_emit {entries : List Entry} {locales : List Locale}
    {templateLocale : Locale} {options : ModuleOptions} {plan : Plan}
    (h : Plan.make entries locales templateLocale options = .ok plan) {source : String}
    (hemit : emit plan = .ok source) {l : Locale} (hl : l ∈ plan.locales) :
    ∃ bodies, HasClass source plan l bodies ∧
      List.Forall₂ (fun m body => Refuses body ↔ m.entry.messageFor? l = none)
        plan.members bodies := by
  obtain ⟨bs, hblocks, _⟩ := map_eq_ok_iff.1 hemit
  obtain ⟨base, classes, factories, _, hclasses, _, hbs⟩ := parts_of_blocks hblocks
  obtain ⟨text, hmem, htext⟩ := exists_mem_of_forall₂ hclasses.flip hl
  have hblock : text ∈ bs := by simp [hbs, hmem]
  obtain ⟨before, after, hsource⟩ := exists_append_of_emit hemit hblocks hblock
  obtain ⟨name, heading, members, hname, hheading, hmembers, heq⟩ :=
    exists_members_of_localeClassBlock htext
  -- head and body alternate in the class, one pair for each member
  obtain ⟨bodies, hbodies, hjoin⟩ :=
    exists_bodies_of_joinMapped (fun m hm _ => refuses_iff_of_accessor h hm) hmembers
  have haccessors := hbodies.imp fun _ _ hboth => hboth.1
  have hrefuse := hbodies.imp fun _ _ hboth => hboth.2
  refine ⟨bodies, ⟨haccessors, name, before, heading, after, hname, hheading, ?_⟩, hrefuse⟩
  rw [hsource, heq, hjoin]

end Parlance.Code
