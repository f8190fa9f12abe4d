import Parlance.Proofs.Code.Parameters
import Parlance.Proofs.Message.Relaxing

/-!
# References do not add parameters under relaxed syntax

Under relaxed syntax a name that the template does not declare is written out nowhere, in no locale
and at no depth; where a text refers to it, that stays text. So a name comes to the placeholders
besides the declared ones only by a role: it counts a plural, selects a case or is a date, and has
this one role. The parameters of the accessor are the declared names and after them the others that
have a role in some locale (`parameters_of_build_relaxed`).
-/

namespace Parlance

/-! ## New placeholders -/

/-- A new placeholder of the template has a name that is used and not declared. Its declaration is
the bare one, which is admissible, and settles (`Settled`) it. -/
theorem settled_of_synthesized {usages : Usages} {occurs : String → Use → Prop}
    (htallies : Tallies usages occurs) {key : String} {declared : List Declared}
    {template : List Resolved} (h : Inferred.templateOf key declared usages = .ok template)
    {p : Resolved} (hp : p ∈ template) (hnew : p.synthesized = true) :
    p.name ∈ Inferred.undeclaredNames declared usages ∧
      Admissible (occurs p.name) (.bare p.name) ∧
      Settled (occurs p.name) (.bare p.name) True p := by
  obtain ⟨first, second, rfl, hfirst, hsecond⟩ := (templateOf_eq_ok_iff htallies key template).1 h
  rcases List.mem_append.1 hp with hp | hp
  · obtain ⟨d, -, -, hsettled⟩ := exists_mem_of_forall₂ hfirst hp
    exact (hsettled.synthesized.1 hnew).elim
  · obtain ⟨name, hname, hother⟩ := exists_mem_of_forall₂ hsecond hp
    have heq : p.name = name := by rw [Resolved.name, hother.2.declared, Declared.bare]
    exact heq ▸ ⟨hname, hother⟩

/-- A placeholder whose name has one role and is not written out has just this role's flag
(`usedAsPlural`, `usedAsSelect`, `usedAsDateTime`), and is no date that is formatted. -/
theorem Settled.flags {uses : Use → Prop} {d : Declared} {isNew : Prop} {p : Resolved}
    (h : Settled uses d isNew p) (hone : ∀ r s, uses (.role r) → uses (.role s) → r = s)
    (huse : ∃ use, uses use) (hplain : ¬ uses .plain) :
    [p.usedAsPlural, p.usedAsSelect, p.usedAsDateTime].count true = 1 ∧
      p.requiresDateFormatting = false := by
  obtain ⟨use, huse⟩ := huse
  -- the use is a role, and each flag says whether it is this one
  cases use with
  | plain => exact absurd huse hplain
  | role r =>
    have hrole : ∀ s, uses (.role s) ↔ s = r := fun s => ⟨fun hs => hone s r hs huse, (· ▸ huse)⟩
    have hplural : p.usedAsPlural = decide (Role.plural = r) := by
      rw [Bool.eq_iff_iff, h.plural, hrole, decide_eq_true_eq]
    have hselect : p.usedAsSelect = decide (Role.select = r) := by
      rw [Bool.eq_iff_iff, h.select, hrole, decide_eq_true_eq]
    have hdateTime : p.usedAsDateTime = decide (Role.dateTime = r) := by
      rw [Bool.eq_iff_iff, h.dateTime, hrole, decide_eq_true_eq]
    refine ⟨?_, Bool.eq_false_iff.2 fun hformatting => hplain (h.dateFormatting.1 hformatting).2⟩
    rw [hplural, hselect, hdateTime]
    cases r <;> decide

/-! ## Parameters -/

namespace Code

/-- The parameters (`parametersOf`) of placeholders are their names, in order, each with the name in
lower case with its words apart. -/
theorem parametersOf_eq_map {ps : List Resolved} {parameters : Assoc String}
    (h : Plan.parametersOf ps = .ok parameters) :
    parameters = (ps.map (·.name)).map fun name => (name, snakeCase name) := by
  rw [List.map_map]
  refine Eq.trans (List.map_id _).symm ?_
  exact (map_eq_map_of_forall₂ (forall₂_of_parametersOf h) fun p x hx =>
    Prod.ext hx.1.symm (eq_snakeCase_of_identifierOf hx.2).symm).symm

end Code

namespace Entry

open Code

section

variable {options : EntryOptions} {template : Bundle} {collection : Collection} {key : String}
  {e : Entry}

/-- The entry of some drafts (`ofDrafts`) has their messages, and the placeholders that are inferred
from them. -/
theorem exists_templateOf_of_ofDrafts {reference : String} {notes : Notes} {drafts : List Draft}
    (h : ofDrafts key reference notes drafts = .ok e) :
    e.renditions.filterMap (·.message) = drafts.filterMap (fun d => d.rendition.message) ∧
      ∃ usages, Inferred.usagesOf [] (e.renditions.filterMap (·.message)) = .ok usages ∧
        Inferred.templateOf key notes.declared usages = .ok e.placeholders := by
  obtain ⟨inferred, hinferred, rfl⟩ := map_eq_ok_iff.1 h
  obtain ⟨usages, husages, htemplate, -⟩ := inferPlaceholders_eq_ok_iff.1 hinferred
  dsimp only
  rw [List.filterMap_map]
  exact ⟨rfl, usages, husages, htemplate⟩

/-- An entry that is built has the messages that the reader gives with the options of the entry, and
the placeholders that are inferred from these messages and the declarations of the template
(`templateOf`). -/
theorem exists_templateOf_of_build (h : (build options template collection key).result = .ok e) :
    ∃ notes, notesOf template key options.requireAttributes = .ok notes ∧
      (∀ m ∈ e.renditions.filterMap (·.message),
        ∃ text, Message.parse (readingOptions options notes) text = .ok m) ∧
      ∃ usages, Inferred.usagesOf [] (e.renditions.filterMap (·.message)) = .ok usages ∧
        Inferred.templateOf key notes.declared usages = .ok e.placeholders := by
  obtain ⟨reference, -, h⟩ := Logged.bind_result_eq_ok_iff.1 h
  obtain ⟨notes, hnotes, h⟩ := Logged.bind_result_eq_ok_iff.1 h
  obtain ⟨drafts, hdrafts, h⟩ := Logged.bind_result_eq_ok_iff.1 h
  obtain ⟨hmessages, hplaceholders⟩ := exists_templateOf_of_ofDrafts (mapError_eq_ok_iff.1 h)
  refine ⟨notes, mapError_eq_ok_iff.1 hnotes, fun m hm => ?_, hplaceholders⟩
  rw [hmessages] at hm
  -- each message was read from the text of some draft
  obtain ⟨d, hd, hmessage⟩ := List.mem_filterMap.1 hm
  obtain ⟨bundle, -, hdraft⟩ :=
    exists_mem_of_forall₂ (Logged.traverse_result_eq_ok_iff.1 hdrafts) hd
  exact parse_of_draft hdraft hmessage

/-- Under relaxed syntax only declared names are written out (`Use.plain`). -/
theorem mem_declared_of_parse {notes : Notes} (hrelaxed : options.relaxed = true) {text : String}
    {m : Message} (h : Message.parse (readingOptions options notes) text = .ok m) {name : String}
    (hname : Occurs m name .plain) : name ∈ notes.declared.map (·.name) := by
  rw [readingOptions, if_pos hrelaxed, (Grammar.parse_known_eq_map_relax ..).1] at h
  obtain ⟨strict, -, rfl⟩ := map_eq_ok_iff.1 h
  exact ((Grammar.occurs_relax_iff name .plain strict).1 hname).2 rfl

/-- Under relaxed syntax only declared names are written out, in any locale and at any depth, and
every new placeholder (`synthesized`) has one role and is no date that is formatted. So the
placeholders are the declared names and after them the other names that have a role in some locale,
in alphabetical order, and the accessor has these for parameters. -/
theorem parameters_of_build_relaxed (hrelaxed : options.relaxed = true)
    (h : (build options template collection key).result = .ok e) :
    ∃ notes, notesOf template key options.requireAttributes = .ok notes ∧
      (∀ r ∈ e.renditions, ∀ m, r.message = some m →
        ∀ name, Occurs m name .plain → name ∈ notes.declared.map (·.name)) ∧
      (∀ p ∈ e.placeholders, p.synthesized = true →
        [p.usedAsPlural, p.usedAsSelect, p.usedAsDateTime].count true = 1 ∧
          p.requiresDateFormatting = false) ∧
      ∃ others, e.placeholders.map (·.name) = notes.declared.map (·.name) ++ others ∧
        others.Pairwise (· < ·) ∧
        (∀ name, name ∈ others ↔ name ∉ notes.declared.map (·.name) ∧
          ∃ r ∈ e.renditions, ∃ m, r.message = some m ∧
            ∃ role, Occurs m name (.role role)) ∧
        ∀ entries locales templateLocale moduleOptions plan,
          Plan.make entries locales templateLocale moduleOptions = .ok plan →
          ∀ member ∈ plan.members, member.entry = e →
            member.parameters =
              (notes.declared.map (·.name) ++ others).map fun name => (name, snakeCase name) := by
  obtain ⟨notes, hnotes, hparsed, usages, husages, htemplate⟩ := exists_templateOf_of_build h
  have htallies := tallies_usagesOf husages
  have hplain : ∀ m ∈ e.renditions.filterMap (·.message), ∀ name,
      Occurs m name .plain → name ∈ notes.declared.map (·.name) := by
    intro m hm name hname
    obtain ⟨text, hparse⟩ := hparsed m hm
    exact mem_declared_of_parse hrelaxed hparse hname
  have hothers := mem_undeclaredNames_iff htallies notes.declared
  have hnames := names_templateOf htallies htemplate
  refine ⟨notes, hnotes, fun r hr m hm => hplain m (List.mem_filterMap.2 ⟨r, hr, hm⟩), ?_,
    Inferred.undeclaredNames notes.declared usages, hnames,
    pairwise_undeclaredNames htallies notes.declared, fun name => ?_, ?_⟩
  · intro p hp hnew
    obtain ⟨hmem, hadmissible, hsettled⟩ := settled_of_synthesized htallies htemplate hp hnew
    obtain ⟨hnot, huse⟩ := (hothers p.name).1 hmem
    exact hsettled.flags hadmissible.oneRole huse fun ⟨m, hm, hoccurs⟩ =>
      hnot (hplain m hm p.name hoccurs)
  · rw [hothers]
    refine and_congr_right fun hnot => ?_
    constructor
    · rintro ⟨use, m, hm, huse⟩
      obtain ⟨r, hr, hmessage⟩ := List.mem_filterMap.1 hm
      -- a use that is no role would write the name out
      cases use with
      | plain => exact absurd (hplain m hm name huse) hnot
      | role role => exact ⟨r, hr, m, hmessage, role, huse⟩
    · rintro ⟨r, hr, m, hm, role, huse⟩
      exact ⟨.role role, m, List.mem_filterMap.2 ⟨r, hr, hm⟩, huse⟩
  · rintro entries locales templateLocale moduleOptions plan hplan member hmember rfl
    rw [parametersOf_eq_map (parametersOf_of_make hplan hmember), hnames]

end

/-- A text that refers to a topic, which is declared, and to a link, which is not. -/
def englishDocs : Bundle :=
  ⟨"l10n/app_en.arb", ⟨"en", none, none, "en"⟩,
    [("docs", .text "\x7blink\x7d: \x7btopic\x7d"),
     ("@docs", .object [("placeholders", .object [("topic", .object [])])])]⟩

/-- A text that selects by the link, and refers to it in a branch. -/
def germanDocs : Bundle :=
  ⟨"l10n/app_de.arb", ⟨"de", none, none, "de"⟩,
    [("docs", .text "\x7blink, select, other\x7b\x7blink\x7d\x7d\x7d")]⟩

/-- The link (`englishDocs`) is a parameter since one locale selects by it, and a text wherever it
is referred to. -/
theorem parameters_of_build_relaxed_docs :
    ∃ e, (build ⟨false, true, Quoting.off, false⟩ englishDocs
        ⟨"l10n", [germanDocs, englishDocs]⟩ "docs").result = .ok e ∧
      e.placeholders.map (fun p => (p.name, p.synthesized)) = [("topic", false), ("link", true)] ∧
      (∀ r ∈ e.renditions, ∀ m, r.message = some m → ∀ name, Occurs m name .plain →
        name = "topic") ∧
      ∀ p ∈ e.placeholders, p.synthesized = true →
        [p.usedAsPlural, p.usedAsSelect, p.usedAsDateTime].count true = 1 ∧
          p.requiresDateFormatting = false := by
  have hbuild : (build ⟨false, true, Quoting.off, false⟩ englishDocs
      ⟨"l10n", [germanDocs, englishDocs]⟩ "docs").result.map
        (fun e => e.placeholders.map fun p => (p.name, p.synthesized)) =
      .ok [("topic", false), ("link", true)] := by
    decide +kernel
  obtain ⟨e, h, hplaceholders⟩ := map_eq_ok_iff.1 hbuild
  obtain ⟨notes, hnotes, hplain, hflags, -⟩ := parameters_of_build_relaxed rfl h
  have hdeclared : (notesOf englishDocs "docs" false).map (fun n => n.declared.map (·.name)) =
      .ok ["topic"] := rfl
  obtain ⟨notes', hnotes', htopic⟩ := map_eq_ok_iff.1 hdeclared
  -- the template declares `topic` only
  cases hnotes.symm.trans hnotes'
  refine ⟨e, h, hplaceholders, fun r hr m hm name hname => ?_, hflags⟩
  have hmem := hplain r hr m hm name hname
  rwa [htopic, List.mem_singleton] at hmem

end Entry

end Parlance
