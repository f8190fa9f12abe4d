import Parlance.Proofs.Code.Refusals
import Parlance.Proofs.Json.Writing
import Parlance.Proofs.Session.Reachable

/-!
# The report agrees with the module

The module and the report of missing messages both go by the messages of the entries: an accessor
refuses where the entry has no message (`Code.exists_bodies_of_emit`), and the report lists the keys
of just these entries (`lists_untranslatedIn_iff`). In the locale of the template every entry has a
message (`exists_messageFor?_template`). So after a run the report lists a key under a locale if and
only if the accessor for the key refuses in the class of the locale, and the file that is written
for it reads back as this report (`lists_iff_refuses_of_run`).
-/

namespace Parlance

open Code Session

/-! ## Entries -/

namespace Entry

variable {options : EntryOptions} {template : Bundle} {collection : Collection} {key : String}
  {e : Entry}

/-- What an entry is built of (`Entry.build`): a draft of each bundle, whose messages and locales
the renditions keep. -/
theorem drafts_of_build (h : (build options template collection key).result = .ok e) :
    e.key = key ∧ ∃ reference notes drafts,
      List.Forall₂ (fun b d => (draft options template reference notes key b).result = .ok d)
        collection.bundles drafts ∧
      List.Forall₂ (fun d r => r.locale = d.rendition.locale ∧ r.message = d.rendition.message)
        drafts e.renditions := by
  obtain ⟨reference, _, h⟩ := Logged.bind_result_eq_ok_iff.1 h
  obtain ⟨notes, _, h⟩ := Logged.bind_result_eq_ok_iff.1 h
  obtain ⟨drafts, hdrafts, h⟩ := Logged.bind_result_eq_ok_iff.1 h
  obtain ⟨inferred, _, he⟩ := ofDrafts_eq_ok_iff.1 (mapError_eq_ok_iff.1 h)
  subst he
  refine ⟨rfl, reference, notes, drafts, Logged.traverse_result_eq_ok_iff.1 hdrafts, ?_⟩
  apply List.forall₂_map_right_iff.2
  exact List.forall₂_same.2 fun d _ => ⟨rfl, rfl⟩

/-- In the locale of the template an entry has a message (`messageFor?`). -/
theorem exists_messageFor?_template (h : (build options template collection key).result = .ok e)
    (htemplate : template ∈ collection.bundles) {l : Locale} (hl : l.tag = template.locale.tag) :
    ∃ m, e.messageFor? l = some m := by
  obtain ⟨_, reference, notes, drafts, hdrafts, hrenditions⟩ := drafts_of_build h
  -- every rendition under the tag is that of a draft of the locale of the template
  have hall : ∀ r ∈ e.renditions, r.locale.same l = true → ∃ m, r.message = some m := by
    intro r hr hsame
    obtain ⟨d, hd, hlocale, hmessage⟩ := exists_mem_of_forall₂ hrenditions hr
    obtain ⟨b, _, hdraft⟩ := exists_mem_of_forall₂ hdrafts hd
    have hb : b.locale.same template.locale = true := by
      rw [hlocale, locale_of_draft hdraft] at hsame
      rwa [Locale.same, ← hl]
    obtain ⟨m, hm⟩ := exists_message_of_draft hb hdraft
    exact ⟨m, hmessage.trans hm⟩
  obtain ⟨d, hd, hdraft⟩ := exists_mem_of_forall₂ hdrafts.flip htemplate
  obtain ⟨r, hr, hlocale, _⟩ := exists_mem_of_forall₂ hrenditions.flip hd
  have hsame : r.locale.same l = true := by
    rw [hlocale, locale_of_draft hdraft, Locale.same, hl, beq_self_eq_true]
  have hfound : (e.renditions.find? fun r => r.locale.same l).isSome = true :=
    List.find?_isSome.2 ⟨r, hr, hsame⟩
  obtain ⟨found, hfind⟩ := Option.isSome_iff_exists.1 hfound
  have hmatches : found.locale.same l = true := by simpa using List.find?_some hfind
  obtain ⟨m, hm⟩ := hall found (List.mem_of_find?_eq_some hfind) hmatches
  exact ⟨m, by rw [messageFor?, renditionFor?, hfind, Option.bind_some, hm]⟩

end Entry

namespace Session

/-- The messages that a session builds (`buildEntries`) have the keys of the template, and each is
there in the locale of the template. -/
theorem of_buildEntries {config : Config} {r : Collection × Bundle} {entries : List Entry}
    (h : (buildEntries config r).result = .ok entries) (htemplate : r.2 ∈ r.1.bundles) :
    entries.map (·.key) = r.2.keys ∧
      ∀ e ∈ entries, ∀ l : Locale, l.tag = r.2.locale.tag → ∃ m, e.messageFor? l = some m := by
  have hentries := Logged.traverse_result_eq_ok_iff.1 h
  constructor
  · have hkeys : r.2.keys.map id = entries.map (·.key) :=
      map_eq_map_of_forall₂ hentries fun key e he => (Entry.drafts_of_build he).1.symm
    rw [← hkeys, List.map_id]
  · intro e he l hl
    obtain ⟨key, _, hbuild⟩ := exists_mem_of_forall₂ hentries he
    exact Entry.exists_messageFor?_template hbuild htemplate hl

/-! ## Reports -/

/-- Whether a report lists a key under a tag. -/
def Lists (report : Assoc (List String)) (tag key : String) : Prop :=
  ∃ keys, (tag, keys) ∈ report ∧ key ∈ keys

variable {entries : List Entry} {template : Locale} {locales : List Locale}

/-- Whether messages are missing (`missingKeys`) goes by the tag of the locale. -/
private theorem missingKeys_congr (entries : List Entry) {a b : Locale} (h : a.tag = b.tag) :
    missingKeys entries a = missingKeys entries b := by
  have hsame : ∀ l : Locale, l.same a = l.same b := by
    intro l
    rw [Locale.same, h, Locale.same]
  simp only [missingKeys, Entry.isTranslated, Entry.messageFor?, Entry.renditionFor?, hsame]

/-- The missing keys (`missingKeys`) are those of entries without a message in the locale. -/
private theorem mem_missingKeys_iff {l : Locale} {key : String} :
    key ∈ missingKeys entries l ↔ ∃ e ∈ entries, e.key = key ∧ e.messageFor? l = none := by
  rw [missingKeys, List.mem_map]
  apply exists_congr
  intro e
  rw [List.mem_filter, Entry.isTranslated, and_assoc, and_comm (b := e.key = key)]
  simp

/-- A report (`untranslatedIn`) has the locales but the template that lack a message, with the keys
that they lack. -/
private theorem mem_untranslatedIn_iff {p : String × List String} :
    p ∈ untranslatedIn entries template locales ↔
      ∃ l ∈ locales, l.tag ≠ template.tag ∧ p = (l.tag, missingKeys entries l) ∧
        missingKeys entries l ≠ [] := by
  simp only [untranslatedIn, List.mem_filter, List.mem_map, Locale.same]
  constructor
  · rintro ⟨⟨l, ⟨hl, htag⟩, rfl⟩, hkeys⟩
    exact ⟨l, hl, by simpa using htag, rfl, by simpa using hkeys⟩
  · rintro ⟨l, hl, htag, rfl, hkeys⟩
    exact ⟨⟨l, ⟨hl, by simpa using htag⟩, rfl⟩, by simpa using hkeys⟩

/-- The report lists (`Lists`) the keys of the messages that a locale lacks. -/
theorem lists_untranslatedIn_iff {l : Locale} (hl : l ∈ locales) (htag : l.tag ≠ template.tag)
    {key : String} :
    Lists (untranslatedIn entries template locales) l.tag key ↔
      ∃ e ∈ entries, e.key = key ∧ e.messageFor? l = none := by
  rw [← mem_missingKeys_iff]
  constructor
  · rintro ⟨keys, hmem, hkey⟩
    -- what is listed may be for another locale of the tag, which lacks the same messages
    obtain ⟨other, _, _, heq, _⟩ := mem_untranslatedIn_iff.1 hmem
    obtain ⟨hother, hkeys⟩ := Prod.mk.inj heq
    rwa [hkeys, ← missingKeys_congr entries hother] at hkey
  · intro hkey
    exact ⟨_, mem_untranslatedIn_iff.2 ⟨l, hl, htag, rfl, List.ne_nil_of_mem hkey⟩, hkey⟩

/-- The tags of a report stand in the order of the locales. -/
private theorem sublist_untranslatedIn (entries : List Entry) (template : Locale)
    (locales : List Locale) : ((untranslatedIn entries template locales).map (·.1)).Sublist
      ((locales.map (·.tag)).filter (· ≠ template.tag)) := by
  -- the tags of all locales but the template's, of which some have nothing to report
  have hfilter : (locales.map (·.tag)).filter (· ≠ template.tag) =
      ((locales.filter fun l => !l.same template).map fun l =>
        (l.tag, missingKeys entries l)).map (·.1) := by
    rw [List.map_map, List.filter_map]
    congr 1
    apply List.filter_congr
    intro l _
    rw [Locale.same, Bool.eq_iff_iff]
    simp
  rw [hfilter]
  exact List.filter_sublist.map _

/-- The keys that are missing (`missingKeys`) stand in the order of the messages. -/
private theorem missingKeys_sublist (entries : List Entry) (l : Locale) :
    (missingKeys entries l).Sublist (entries.map (·.key)) :=
  List.filter_sublist.map _

/-! ## Texts of reports -/

/-- A report as a value: under each tag the list of keys. -/
def reportValue (report : Assoc (List String)) : Value :=
  .object (report.map fun p => (p.1, .list (p.2.map .text)))

/-- A report on distinct tags is made of texts, lists and one object (`Worded`). -/
theorem worded_reportValue {report : Assoc (List String)} (h : (report.map (·.1)).Nodup) :
    (reportValue report).Worded := by
  have hlist : ∀ keys : List String, (Value.list (keys.map .text)).Worded := by
    intro keys
    refine .list fun v hv => ?_
    obtain ⟨key, -, rfl⟩ := List.mem_map.1 hv
    exact .text key
  refine .object (by rwa [List.map_map]) fun e he => ?_
  obtain ⟨p, -, rfl⟩ := List.mem_map.1 he
  exact hlist p.2

/-- In a report there are lists in one object, and nothing is nested (`nesting`) more deeply. -/
private theorem nesting_reportValue_le (report : Assoc (List String)) :
    (reportValue report).nesting ≤ 2 := by
  have hlist : ∀ keys : List String, nestingOfItems (keys.map .text) = 0 := by
    intro keys
    induction keys with
    | nil => rfl
    | cons key rest ih =>
      rw [List.map_cons, nestingOfItems, ih]
      rfl
  -- Each list of keys is one level inside of the object, and there is nothing inside of it.
  have hentries : nestingOfEntries (report.map fun p => (p.1, .list (p.2.map .text))) ≤ 1 := by
    induction report with
    | nil => exact Nat.zero_le 1
    | cons p rest ih =>
      rw [List.map_cons, nestingOfEntries, Value.nesting, hlist]
      omega
  rw [reportValue, Value.nesting]
  omega

/-- The text of a report (`reportText`) on distinct tags reads back as the report. -/
theorem read_reportText {report : Assoc (List String)} (h : (report.map (·.1)).Nodup) {limit : Nat}
    (hlimit : 2 ≤ limit) : Json.read limit (reportText report) = .ok (reportValue report) := by
  have hroom : (reportValue report).nesting ≤ limit := (nesting_reportValue_le report).trans hlimit
  exact Json.read_indented (worded_reportValue h) hroom 2 (by simp [Json.isGap])

/-! ## Runs -/

/-- Whether the accessor for a key refuses, in a class of a module with some bodies. -/
def RefusesKey (plan : Plan) (bodies : List String) (key : String) : Prop :=
  ∃ m body, (m, body) ∈ plan.members.zip bodies ∧ m.entry.key = key ∧ Refuses body

/-- What is told by related items of two lists, told by the items of the first. -/
private theorem exists_mem_zip_iff {α β : Type} {P S : α → Prop} {Q : β → Prop} {xs : List α}
    {ys : List β} (h : List.Forall₂ (fun x y => Q y ↔ S x) xs ys) :
    (∃ x y, (x, y) ∈ xs.zip ys ∧ P x ∧ Q y) ↔ ∃ x ∈ xs, P x ∧ S x := by
  induction h with
  | nil => simp
  | @cons x y xs ys hfirst _ ih =>
    -- the pair is the first one, or one of the rest
    rw [List.exists_mem_cons_iff, ← ih, ← hfirst, List.zip_cons_cons]
    constructor
    · intro hsome
      obtain ⟨a, b, hmem, hP, hQ⟩ := hsome
      cases List.mem_cons.1 hmem with
      | inl heq =>
        cases heq
        exact .inl ⟨hP, hQ⟩
      | inr hrest => exact .inr ⟨a, b, hrest, hP, hQ⟩
    · intro hsome
      cases hsome with
      | inl hthis => exact ⟨x, y, List.mem_cons_self, hthis⟩
      | inr hother =>
        obtain ⟨a, b, hmem, hboth⟩ := hother
        exact ⟨a, b, List.mem_cons_of_mem _ hmem, hboth⟩

/-- What a run that succeeds has made: the module of a plan for the messages and locales of the
session, and the report on the same (`untranslatedIn`). The session that has the module made holds
what it held before, unless it had loaded nothing. -/
theorem plan_of_run {w : Work} {file : Option String} {summary : Summary}
    (h : (run file w).2.result = .ok summary) :
    ∃ r locales plan source w₁, resources.Ends w r w₁ ∧ w₁.session.Ready r locales ∧
      (generate w).2.result = .ok source ∧ (generate w).1 = w₁ ∧
      (∃ header, Plan.make w₁.session.entries locales r.2.locale
        (moduleOptions w₁.session.config header r.2) = .ok plan) ∧
      emit plan = .ok source ∧ summary.locales = locales.map (·.tag) ∧
      summary.untranslated = untranslatedIn w₁.session.entries r.2.locale locales ∧
      (untranslated w).2.result = .ok summary.untranslated := by
  have hrun := Job.ends_of_result h
  obtain ⟨source, w₁, hgenerate, _⟩ := Job.ends_bind_iff.1 hrun
  obtain ⟨r, locales, header, plan, hresources, hready, hplan, hemit⟩ := plan_of_generate hgenerate
  obtain ⟨report, others, w₂, hreport, hlocales, _, _, hsummary⟩ :=
    (ends_run_iff hgenerate).1 hrun
  -- The run asks for locales and report again, and gets those that the module was made with.
  obtain ⟨hothers, _⟩ := hlocales.unique (ends_supportedLocales hresources hready)
  obtain ⟨hsame, _⟩ := hreport.unique (ends_untranslated hresources hready)
  refine ⟨r, locales, plan, source, w₁, hresources, hready, hgenerate.1, hgenerate.2,
    ⟨header, hplan⟩, hemit, ?_, ?_, ?_⟩
  · rw [hsummary, hothers]
  · rw [hsummary, hsame]
  · rw [hsummary, hreport.1]

/-- Whether the report on a module agrees with the class of a locale: in the locale of the template
no accessor refuses, and in another the report lists just the keys whose accessors do. -/
def Agrees (plan : Plan) (source : String) (template : Bundle) (report : Assoc (List String))
    (l : Locale) : Prop :=
  ∃ bodies, HasClass source plan l bodies ∧
    (l.tag = template.locale.tag → ∀ body ∈ bodies, ¬ Refuses body) ∧
    (l.tag ≠ template.locale.tag → ∀ key ∈ template.keys,
      Lists report l.tag key ↔ RefusesKey plan bodies key)

/-- Bundles of which a message cannot be built were loaded before, if loading them succeeds now. -/
theorem lacksMessages_of_resources {w w' : Work} {r : Collection × Bundle}
    (h : resources.Ends w r w') (hlacks : w'.session.LacksMessages r) :
    w.session.LacksMessages r := by
  obtain ⟨hresult, rfl⟩ := h
  cases hloaded : w.session.loaded with
  | some r' =>
    rw [resources_of_some hloaded] at hlacks
    exact hlacks
  | none =>
    -- what is loaded only now is loaded with all of its messages
    obtain ⟨_, _, e, he⟩ := hlacks
    rw [resources_of_none hloaded] at hresult he
    cases hfind : w.session.findBundles w.files with
    | error e' =>
      rw [load_of_findBundles_error hfind] at hresult
      cases hresult
    | ok found =>
      obtain ⟨hstate, hloads⟩ := load_of_findBundles_ok hfind
      obtain ⟨entries, hentries, rfl⟩ := map_eq_ok_iff.1 (hloads.symm.trans hresult)
      rw [hstate] at he
      cases hentries.symm.trans he

/-- A module and a report on the same messages agree (`Agrees`), if all messages are there in the
locale of the template. -/
theorem agrees_of_emit {template : Bundle} {options : ModuleOptions} {plan : Plan}
    {source : String} (hplan : Plan.make entries locales template.locale options = .ok plan)
    (hemit : emit plan = .ok source)
    (htemplate : ∀ e ∈ entries, ∀ l : Locale, l.tag = template.locale.tag →
      ∃ m, e.messageFor? l = some m) {l : Locale} (hl : l ∈ plan.locales) :
    Agrees plan source template (untranslatedIn entries template.locale locales) l := by
  obtain ⟨bodies, hclass, hrefuse⟩ := exists_bodies_of_emit hplan hemit hl
  have hentries := map_entry_of_make hplan
  obtain ⟨_, _, _, hlocales, _⟩ := eq_of_make hplan
  refine ⟨bodies, hclass, ?_, ?_⟩
  · intro htag body hbody hrefuses
    obtain ⟨m, hm, hiff⟩ := exists_mem_of_forall₂ hrefuse hbody
    have hentry : m.entry ∈ entries := hentries ▸ List.mem_map_of_mem hm
    -- The locale of the template has every message, so none of its bodies refuses.
    obtain ⟨message, hmessage⟩ := htemplate m.entry hentry l htag
    cases (hiff.1 hrefuses).symm.trans hmessage
  · intro htag key _
    rw [lists_untranslatedIn_iff (hlocales ▸ hl) htag, RefusesKey, exists_mem_zip_iff hrefuse,
      ← hentries]
    simp

/-- After any calls, a run that succeeds writes a module and gives a report that agree. For each
locale but the template's, the report lists a key of the template if and only if the accessor for
the key refuses in the class of the locale, and no accessor refuses in the class of the template's
locale. The report has only locales with keys that are missing, in the order of the supported
locales, and these keys in the order of the template, each once. The module has accessors for all
keys of the template, unless the session had loaded the bundles before and a message of them cannot
be built: then it has accessors for none. The file of the report, if one is asked for, reads back as
the report. -/
theorem lists_iff_refuses_of_run {w : Work} (hw : w.session.Reachable) {file : Option String}
    {summary : Summary} (h : (run file w).2.result = .ok summary) :
    ∃ r plan source, (resources w).2.result = .ok r ∧ (generate w).2.result = .ok source ∧
      emit plan = .ok source ∧ plan.locales.map (·.tag) = summary.locales ∧
      (plan.members.map (·.entry.key) = r.2.keys ∨
        plan.members = [] ∧ w.session.LacksMessages r) ∧
      (∀ l ∈ plan.locales, Agrees plan source r.2 summary.untranslated l) ∧
      (∀ p ∈ summary.untranslated, p.2 ≠ [] ∧ p.2.Sublist r.2.keys) ∧
      (summary.untranslated.map (·.1)).Sublist
        (summary.locales.filter (· ≠ r.2.locale.tag)) ∧
      summary.locales.Nodup ∧ r.2.keys.Nodup ∧
      ∀ path ∈ w.session.reportPath? file, ∃ place text,
        (run file w).1.files.resolve path = .ok place ∧
          (run file w).1.files.file? place = some (.text text) ∧
          ∀ limit, 2 ≤ limit → Json.read limit text = .ok (reportValue summary.untranslated) := by
  obtain ⟨r, locales, plan, source, w₁, hresources, hready, hgenerate, hstate, ⟨header, hplan⟩,
    hemit, hlocales, hreport, huntranslated⟩ := plan_of_run h
  have hreachable : w₁.session.Reachable := hstate ▸ hw.call w.files .generate
  have hsound := hreachable.sound
  obtain ⟨hcollection, htemplate, hkeys⟩ := hsound.loaded hready.loaded
  obtain ⟨_, _, _, hplanLocales, _⟩ := eq_of_make hplan
  have hentries := map_entry_of_make hplan
  -- the messages are those of the template, or there are none
  have hheld : (w₁.session.entries.map (·.key) = r.2.keys ∨
        w₁.session.entries = [] ∧ w.session.LacksMessages r) ∧
      ∀ e ∈ w₁.session.entries, ∀ l : Locale, l.tag = r.2.locale.tag →
        ∃ m, e.messageFor? l = some m := by
    cases hsound.built r hready.loaded with
    | inl hbuilt =>
      obtain ⟨hnames, hall⟩ := of_buildEntries hbuilt htemplate
      exact ⟨.inl hnames, hall⟩
    | inr hlacks =>
      have hnone := hlacks.2.1
      refine ⟨.inr ⟨hnone, lacksMessages_of_resources hresources hlacks⟩, ?_⟩
      rw [hnone]
      exact nofun
  obtain ⟨hnames, hall⟩ := hheld
  have hsublist : (summary.untranslated.map (·.1)).Sublist
      (summary.locales.filter (· ≠ r.2.locale.tag)) := by
    rw [hreport, hlocales]
    exact sublist_untranslatedIn _ _ _
  have hdistinct : summary.locales.Nodup := by
    rw [hlocales]
    exact nodup_tags_of_arrange hcollection hready.arranged
  refine ⟨r, plan, source, hresources.1, hgenerate, hemit, ?_, ?_, ?_, ?_, hsublist, hdistinct,
    hkeys, ?_⟩
  · rw [hplanLocales, hlocales]
  · have hmembers : plan.members.map (·.entry.key) = w₁.session.entries.map (·.key) := by
      rw [← hentries, List.map_map]
      rfl
    cases hnames with
    | inl hsome => exact .inl (hmembers.trans hsome)
    | inr hnone =>
      rw [hnone.1] at hentries
      exact .inr ⟨List.map_eq_nil_iff.1 hentries, hnone.2⟩
  · intro l hl
    rw [hreport]
    exact agrees_of_emit hplan hemit hall hl
  · intro p hp
    rw [hreport] at hp
    obtain ⟨l, _, _, heq, hsome⟩ := mem_untranslatedIn_iff.1 hp
    subst heq
    refine ⟨hsome, ?_⟩
    cases hnames with
    | inl hsame => exact hsame ▸ missingKeys_sublist _ l
    | inr hnone => exact absurd (by rw [hnone.1]; rfl) hsome
  · -- the report is the last thing that is written, and it is the text of what is given
    intro path hpath
    obtain ⟨_, report, _, hsame, hleaves⟩ :=
      exists_summary_of_generate hgenerate (takesWrites_of_run h)
    cases hsame.symm.trans huntranslated
    obtain ⟨place, hplace, hheld⟩ := hleaves.report path hpath
    exact ⟨place, _, hplace, hheld, fun limit hlimit =>
      read_reportText (hsublist.nodup (hdistinct.filter _)) hlimit⟩

/-- The bundle of the travel files that has the name of the template. -/
def travelTemplate : Bundle :=
  (travelCollection.bundles.find? fun b => b.filename == "app_en.arb").getD ⟨"", default, []⟩

/-- The messages that are built from the travel files. -/
def travelEntries : List Entry :=
  (buildEntries (travelWork none []).session.config
    (travelCollection, travelTemplate)).result.toOption.getD []

/-- The travel files, and a session that has loaded them. -/
def travelReady : Work := travelWork (travelCollection, travelTemplate) travelEntries

/-- Loading the bundles of the project makes the session `travelReady`. -/
private theorem load_travelWork : (load (travelWork none [])).1 = travelReady := by
  have hproject : (travelWork none []).session.project = "." := rfl
  have hdecoder : (travelWork none []).session.decoder = travelDecoder := rfl
  have hfile : (travelWork none []).session.config.templateFile = "app_en.arb" := rfl
  have hdirectory : (travelWork none []).session.config.bundlesPath "." = "l10n" := by
    decide +kernel
  have hexists : travelFiles.pathExists "l10n" = true := by decide +kernel
  have hnonempty : travelCollection.bundles.isEmpty = false := by decide +kernel
  have hthere : (travelCollection.bundles.find? fun b => b.filename == "app_en.arb").isSome =
      true := by
    decide +kernel
  obtain ⟨template, hfind⟩ := Option.isSome_iff_exists.1 hthere
  have htemplate : travelTemplate = template := by
    rw [travelTemplate, hfind, Option.getD_some]
  -- The template is found by its name among the bundles of the directory.
  have hfound : (travelWork none []).session.findBundles travelFiles =
      .ok (travelCollection, travelTemplate) := by
    simp only [findBundles, hproject, hdecoder, hdirectory, hexists, ofDirectory_travelFiles,
      Except.bind, hnonempty, hfile, hfind, htemplate]
    rfl
  rw [(load_of_findBundles_ok hfound).1]
  rfl

/-- The session is reached (`Reachable`) by loading. -/
private theorem reachable_travelReady : travelReady.session.Reachable := by
  have hload : (load ⟨start travelDecoder (travelWork none []).session.config ".",
      travelFiles⟩).1 = travelReady :=
    load_travelWork
  have hdecoder : travelDecoder.Documented := Json.documented 100
  have hcall := Reachable.call (.start hdecoder (travelWork none []).session.config ".")
    travelFiles .messages
  rw [(Call.loads_job .messages).session_eq rfl, hload] at hcall
  exact hcall

/-- The report on the travel files. -/
def travelReport : Assoc (List String) := [("fr_CA", ["hello", "bye"]), ("fr", ["bye"])]

/-- A run with a report file on three locales, of which two lack messages. -/
theorem lists_iff_refuses_of_run_travel :
    travelReady.session.Reachable ∧
    ∃ summary, (run (some "missing.json") travelReady).2.result = .ok summary ∧
      summary.locales = ["fr_CA", "en", "fr"] ∧ summary.untranslated = travelReport ∧
      (∃ r plan source, (resources travelReady).2.result = .ok r ∧
        (generate travelReady).2.result = .ok source ∧ emit plan = .ok source ∧
        plan.locales.map (·.tag) = summary.locales ∧
        ∀ l ∈ plan.locales, Agrees plan source r.2 summary.untranslated l) ∧
      ∃ place text, (run (some "missing.json") travelReady).1.files.resolve "missing.json" =
          .ok place ∧
        (run (some "missing.json") travelReady).1.files.file? place = some (.text text) ∧
        Json.read 2 text = .ok (reportValue travelReport) := by
  have hrun : ((run (some "missing.json") travelReady).2.result.map fun s =>
      (s.locales, s.untranslated)).toOption = some (["fr_CA", "en", "fr"], travelReport) := by
    decide +kernel
  have hpath : travelReady.session.reportPath? (some "missing.json") = some "missing.json" := by
    decide +kernel
  cases hresult : (run (some "missing.json") travelReady).2.result with
  | error e =>
    rw [hresult] at hrun
    cases hrun
  | ok summary =>
    rw [hresult] at hrun
    -- the run is computed as far as its summary; all else comes from the theorem
    obtain ⟨hlocales, hreport⟩ := Prod.mk.inj (Option.some.inj hrun)
    obtain ⟨r, plan, source, hr, hgenerate, hemit, hplan, _, hagrees, _, _, _, _, hwritten⟩ :=
      lists_iff_refuses_of_run reachable_travelReady hresult
    obtain ⟨place, text, hplace, hheld, hread⟩ := hwritten "missing.json" hpath
    exact ⟨reachable_travelReady, summary, rfl, hlocales, hreport, ⟨r, plan, source, hr, hgenerate,
      hemit, hplan, hagrees⟩, place, text, hplace, hheld, hreport ▸ hread 2 (Nat.le_refl 2)⟩

end Session

end Parlance
