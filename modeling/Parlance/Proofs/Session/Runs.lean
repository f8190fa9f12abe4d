import Parlance.Json.Reader
import Parlance.Proofs.FileSystem.Writing
import Parlance.Proofs.Session.Calls

/-!
# What a run leaves behind

A run writes nothing before the text of the module is made, and nothing that it does after the
first write can fail but a write (`ends_run_iff`). So a run that fails has changed no file, if the
file system takes what it writes, as one in memory always does (`takesWrites_in_memory`). A run that
succeeds leaves the module and the report in their places with the directories for them, and no
other file has changed (`run_all_or_nothing`). Where both paths lead to one place, the report stands
there (`report_in_place_of_module`).
-/

namespace Parlance

/-! ## Jobs that write nothing -/

namespace Job

variable {α β : Type} {x : Job α} {f : α → Job β} {w : Work}

/-- Whether a job leaves the file system alone. -/
def Quiet (x : Job α) : Prop := ∀ w, (x w).1.files = w.files

/-- Giving a result writes nothing (`Quiet`). -/
theorem quiet_pure (a : α) : Quiet (pure a) := fun _ => rfl

/-- A computation (`ofExcept`) writes nothing. -/
private theorem quiet_ofExcept (g : Work → Except Failure α) : Quiet (ofExcept g) := fun _ => rfl

/-- Two quiet (`Quiet`) jobs are quiet one after the other. -/
theorem Quiet.bind (hx : Quiet x) (hf : ∀ a, Quiet (f a)) : Quiet (x.bind f) := by
  intro w
  cases hresult : (x w).2.result with
  | error e => rw [(bind_of_error hresult).1, hx w]
  | ok a => rw [(bind_of_ok hresult).1, hf a, hx w]

/-- Whether a job gives a result, and what it leaves the work as. -/
def Ends (x : Job α) (w : Work) (a : α) (w' : Work) : Prop :=
  (x w).2.result = .ok a ∧ (x w).1 = w'

/-- A job that gives a result ends with it (`Ends`). -/
theorem ends_of_result {a : α} (h : (x w).2.result = .ok a) : x.Ends w a (x w).1 := ⟨h, rfl⟩

/-- A job ends in one way only. -/
theorem Ends.unique {a a' : α} {w' w'' : Work} (h : x.Ends w a w') (h' : x.Ends w a' w'') :
    a = a' ∧ w' = w'' :=
  ⟨Except.ok.inj (h.1.symm.trans h'.1), h.2.symm.trans h'.2⟩

/-- A computation ends where it began. -/
private theorem ends_ofExcept_iff {g : Work → Except Failure α} {a : α} {w' : Work} :
    (ofExcept g).Ends w a w' ↔ g w = .ok a ∧ w = w' := Iff.rfl

/-- A job in two steps gives a result (`Ends`) when both do, the second one from where the first one
ends. -/
theorem ends_bind_iff {b : β} {w'' : Work} :
    (x.bind f).Ends w b w'' ↔ ∃ a w', x.Ends w a w' ∧ (f a).Ends w' b w'' := by
  constructor
  · rintro ⟨hresult, hstate⟩
    -- A first step that fails would have failed the job.
    cases hx : (x w).2.result with
    | error e =>
      rw [(bind_of_error hx).2] at hresult
      cases hresult
    | ok a =>
      obtain ⟨hstate', hresult'⟩ := bind_of_ok (f := f) hx
      exact ⟨a, (x w).1, ⟨hx, rfl⟩, hresult'.symm.trans hresult, hstate'.symm.trans hstate⟩
  · rintro ⟨a, _, ⟨hx, rfl⟩, hresult, hstate⟩
    obtain ⟨hstate', hresult'⟩ := bind_of_ok (f := f) hx
    exact ⟨hresult'.trans hresult, hstate'.trans hstate⟩

/-- A job ends with another result where it ends. -/
theorem Ends.map {a : α} {w' : Work} (h : x.Ends w a w') (g : α → β) :
    (x.map g).Ends w (g a) w' :=
  ends_bind_iff.2 ⟨a, w', h, rfl, rfl⟩

end Job

namespace Session

open Job

variable {w w' : Work}

/-- Loading (`load`) writes nothing. -/
private theorem quiet_load : Quiet load := by
  intro w
  cases hfind : w.session.findBundles w.files with
  | error e => rw [load_of_findBundles_error hfind]
  | ok r => rw [(load_of_findBundles_ok hfind).1]

/-- Asking for the bundles (`resources`) writes nothing. -/
theorem quiet_resources : Quiet resources := by
  intro w
  unfold resources
  split
  · rfl
  · exact quiet_load w

/-- Asking for the messages (`messages`) writes nothing. -/
private theorem quiet_messages : Quiet messages := quiet_resources.bind fun _ => quiet_ofExcept _

/-- Asking for the supported locales (`supportedLocales`) writes nothing. -/
private theorem quiet_supportedLocales : Quiet supportedLocales :=
  quiet_resources.bind fun _ => quiet_ofExcept _

/-- Making the module (`generate`) writes nothing. -/
theorem quiet_generate : Quiet generate := by
  refine quiet_resources.bind fun r => ?_
  refine (quiet_ofExcept _).bind fun header => ?_
  refine quiet_messages.bind fun entries => ?_
  exact quiet_supportedLocales.bind fun locales => quiet_ofExcept _

/-! ## Sessions that are ready -/

/-- Whether a session has loaded its bundles and can put their locales in order. -/
structure Ready (s : Session) (r : Collection × Bundle) (locales : List Locale) : Prop where
  loaded : s.loaded = some r
  arranged : arrange r.1.locales s.config.preferredLocales = .ok locales

variable {r : Collection × Bundle} {locales : List Locale}

/-- The bundles are loaded once they have been asked for (`resources`), and the settings stay. -/
theorem loaded_of_resources (h : resources.Ends w r w') :
    w'.session.loaded = some r ∧ w'.session.config = w.session.config ∧
      w'.session.project = w.session.project := by
  obtain ⟨hresult, rfl⟩ := h
  cases hloaded : w.session.loaded with
  | some r' =>
    rw [resources_of_some hloaded] at hresult ⊢
    cases hresult
    exact ⟨hloaded, rfl, rfl⟩
  | none =>
    rw [resources_of_none hloaded] at hresult ⊢
    refine ⟨loaded_of_load hresult, ?_⟩
    -- Whether bundles are found or not, only what is loaded changes.
    cases hfind : w.session.findBundles w.files with
    | error e =>
      rw [load_of_findBundles_error hfind]
      exact ⟨rfl, rfl⟩
    | ok found =>
      rw [(load_of_findBundles_ok hfind).1]
      exact ⟨rfl, rfl⟩

/-- A session that has loaded gives what it holds and stays as it is. -/
theorem ends_resources (h : w.session.loaded = some r) : resources.Ends w r w := by
  unfold Ends
  rw [resources_of_some h]
  exact ⟨rfl, rfl⟩

/-- A session that has loaded gives its messages (`messages`) and stays as it is. -/
private theorem ends_messages (h : w.session.loaded = some r) :
    messages.Ends w w.session.entries w :=
  ends_bind_iff.2 ⟨r, w, ends_resources h, rfl, rfl⟩

/-- A session that is ready once its bundles are loaded gives its locales (`supportedLocales`). -/
theorem ends_supportedLocales (hresources : resources.Ends w r w')
    (h : w'.session.Ready r locales) : supportedLocales.Ends w locales w' :=
  ends_bind_iff.2 ⟨r, w', hresources, mapError_eq_ok_iff.2 h.arranged, rfl⟩

/-- A session that is ready once its bundles are loaded gives its report (`untranslated`). -/
theorem ends_untranslated (hresources : resources.Ends w r w') (h : w'.session.Ready r locales) :
    untranslated.Ends w (untranslatedIn w'.session.entries r.2.locale locales) w' := by
  have hloaded := ends_resources h.loaded
  apply ends_bind_iff.2
  refine ⟨r.2.locale, w', hresources.map _, ?_⟩
  apply ends_bind_iff.2
  exact ⟨locales, w', ends_supportedLocales hloaded h, (ends_messages h.loaded).map _⟩

/-- A session that has loaded and gives its locales is ready (`Ready`). -/
theorem ready_of_supportedLocales (hloaded : w.session.loaded = some r)
    (h : supportedLocales.Ends w locales w') : w' = w ∧ w.session.Ready r locales := by
  obtain ⟨r', w₁, hresources, h⟩ := ends_bind_iff.1 h
  obtain ⟨rfl, rfl⟩ := (ends_resources hloaded).unique hresources
  obtain ⟨harranged, rfl⟩ := ends_ofExcept_iff.1 h
  exact ⟨rfl, hloaded, mapError_eq_ok_iff.1 harranged⟩

/-- The module is made (`generate`) of the messages that the session holds once its bundles are
loaded, and of their locales in order. -/
theorem plan_of_generate {source : String} (h : generate.Ends w source w') :
    ∃ r locales header plan, resources.Ends w r w' ∧ w'.session.Ready r locales ∧
      Code.Plan.make w'.session.entries locales r.2.locale
        (moduleOptions w'.session.config header r.2) = .ok plan ∧
      Code.emit plan = .ok source := by
  obtain ⟨r, w₁, hresources, h⟩ := ends_bind_iff.1 h
  obtain ⟨hloaded, -⟩ := loaded_of_resources hresources
  obtain ⟨header, w₂, hheader, h⟩ := ends_bind_iff.1 h
  obtain ⟨-, rfl⟩ := ends_ofExcept_iff.1 hheader
  -- the steps after the first one find the bundles loaded, and leave the work as it is
  obtain ⟨entries, w₃, hmessages, h⟩ := ends_bind_iff.1 h
  obtain ⟨rfl, rfl⟩ := (ends_messages hloaded).unique hmessages
  obtain ⟨locales, w₄, hlocales, h⟩ := ends_bind_iff.1 h
  obtain ⟨rfl, hready⟩ := ready_of_supportedLocales hloaded hlocales
  obtain ⟨hsource, rfl⟩ := ends_ofExcept_iff.1 h
  obtain ⟨plan, hplan, hemit⟩ := bind_eq_ok_iff.1 hsource
  exact ⟨r, locales, header, plan, hresources, hready, mapError_eq_ok_iff.1 hplan, hemit⟩

/-- Once the module is made the session is ready (`Ready`), and nothing but loading has changed it.
-/
theorem ready_of_generate {source : String} (h : generate.Ends w source w') :
    ∃ r locales, resources.Ends w r w' ∧ w'.session.Ready r locales := by
  obtain ⟨r, locales, -, -, hresources, hready, -⟩ := plan_of_generate h
  exact ⟨r, locales, hresources, hready⟩

/-! ## Writes -/

/-- A file that has been written (`write`) stands in its place, and the session is as before. -/
theorem written_of_write {path text : String} (h : (write path text).Ends w () w') :
    w'.session = w.session ∧ w.files.Written path text w'.files := by
  obtain ⟨h, rfl⟩ := h
  unfold write at h ⊢
  dsimp only at h ⊢
  split at h
  · cases h
  · next fs hmade =>
    -- the directory is there, from before or made just now
    have hready : w.files.Extends fs ∧ (∀ p, fs.file? p = w.files.file? p) ∧
        fs.pathExists (Path.ofString path).parent.toString = true := by
      split at hmade
      · next hthere =>
        cases hmade
        exact ⟨.refl w.files, fun _ => rfl, hthere⟩
      · exact FileSystem.pathExists_of_makeDirectory hmade
    obtain ⟨hextends, hfiles, hparent⟩ := hready
    split at h
    · cases h
    · next after hafter =>
      obtain ⟨hextends', place, hplace, hheld, hothers⟩ := FileSystem.place_of_writeText hafter
      refine ⟨rfl, hextends.trans hextends', ⟨place, hplace, hheld, ?_⟩, ?_⟩
      · intro other hne
        rw [hothers other hne, hfiles]
      · exact hextends'.pathExists hparent

/-- In memory every write (`write`) succeeds. -/
private theorem write_in_memory (path text : String) (h : w.files.mount = none) :
    (write path text w).2.result = .ok () ∧ (write path text w).1.files.mount = none := by
  obtain ⟨fs, hmade, hmount⟩ : ∃ fs, (if w.files.pathExists (Path.ofString path).parent.toString
      then Except.ok w.files else w.files.makeDirectory (Path.ofString path).parent.toString) =
        Except.ok fs ∧ fs.mount = none := by
    -- the directory is there, or it is made
    split
    · exact ⟨w.files, rfl, h⟩
    · exact (FileSystem.exists_of_mount_none h).2 _
  obtain ⟨after, hafter, hmount'⟩ := (FileSystem.exists_of_mount_none hmount).1 path text
  unfold write
  dsimp only
  rw [hmade]
  dsimp only
  rw [hafter]
  exact ⟨rfl, hmount'⟩

/-! ## Runs -/

/-- Whether the file system takes what a run writes. -/
structure TakesWrites (file : Option String) (w : Work) : Prop where
  module : ∀ source, (generate w).2.result = .ok source →
    (write (w.session.config.outputPath w.session.project) source (generate w).1).2.result = .ok ()
  report : ∀ source report, (generate w).2.result = .ok source →
    (untranslated w).2.result = .ok report →
    (writeReport file report (write (w.session.config.outputPath w.session.project) source
      (generate w).1).1).2.result = .ok ()

/-- A file system in memory takes everything (`TakesWrites`). -/
theorem takesWrites_in_memory (file : Option String) (h : w.files.mount = none) :
    TakesWrites file w := by
  have hmount : (generate w).1.files.mount = none := by rw [quiet_generate w, h]
  constructor
  · intro source _
    exact (write_in_memory _ source hmount).1
  · intro source report _ _
    unfold writeReport
    split
    · rfl
    · exact (write_in_memory _ _ (write_in_memory _ source hmount).2).1

/-- What a run leaves behind that writes a module and perhaps a report: the module stands in its
place unless the report does, the report stands in its place, the directories for both are there,
and nothing else has changed but that directories may have been made. -/
structure Leaves (before : FileSystem) (output source : String) (reportPath : Option String)
    (report : String) (after : FileSystem) : Prop where
  extends_ : before.Extends after
  module : ∃ place, after.resolve output = .ok place ∧
    ((∀ path ∈ reportPath, after.resolve path ≠ .ok place) →
      after.file? place = some (.text source))
  report : ∀ path ∈ reportPath, ∃ place, after.resolve path = .ok place ∧
    after.file? place = some (.text report)
  directories : after.pathExists (Path.ofString output).parent.toString = true ∧
    ∀ path ∈ reportPath, after.pathExists (Path.ofString path).parent.toString = true
  others : ∀ place, after.resolve output ≠ .ok place →
    (∀ path ∈ reportPath, after.resolve path ≠ .ok place) → after.file? place = before.file? place

/-- The module and then, if there is to be one, the report leave (`Leaves`) both behind. -/
theorem leaves_of_written {before middle after : FileSystem} {output source report : String}
    {reportPath : Option String} (hmodule : before.Written output source middle)
    (hreport : ∀ path ∈ reportPath, middle.Written path report after)
    (hnone : reportPath = none → after = middle) :
    Leaves before output source reportPath report after := by
  obtain ⟨hextends, ⟨place, hplace, hheld, hothers⟩, hparent⟩ := hmodule
  cases reportPath with
  | none =>
    cases hnone rfl
    refine ⟨hextends, ⟨place, hplace, fun _ => hheld⟩, by simp, ⟨hparent, by simp⟩, ?_⟩
    intro other hother _
    exact hothers other fun heq => hother (heq ▸ hplace)
  | some path =>
    obtain ⟨hextends', ⟨place', hplace', hheld', hothers'⟩, hparent'⟩ := hreport path rfl
    have hplace := hextends'.resolve hplace
    refine ⟨hextends.trans hextends', ⟨place, hplace, ?_⟩, ?_, ⟨?_, ?_⟩, ?_⟩
    · intro hapart
      -- the report stands elsewhere, so the module is still there
      have hne : place ≠ place' := fun heq => hapart path rfl (heq ▸ hplace')
      rw [hothers' place hne, hheld]
    · rintro _ ⟨⟩
      exact ⟨place', hplace', hheld'⟩
    · exact hextends'.pathExists hparent
    · rintro _ ⟨⟩
      exact hparent'
    · intro other hother hother'
      have hne : other ≠ place := fun heq => hother (heq ▸ hplace)
      have hne' : other ≠ place' := fun heq => hother' path rfl (heq ▸ hplace')
      rw [hothers' other hne', hothers other hne]

/-- A report that has been written (`Written`) stands in its place, and the session is as before. -/
theorem written_of_writeReport {file : Option String} {report : Assoc (List String)}
    (h : (writeReport file report).Ends w () w') :
    w'.session = w.session ∧
      (∀ path ∈ w.session.reportPath? file, w.files.Written path (reportText report) w'.files) ∧
      (w.session.reportPath? file = none → w'.files = w.files) := by
  obtain ⟨h, rfl⟩ := h
  unfold writeReport at h ⊢
  cases hpath : w.session.reportPath? file with
  | none => simp
  | some path =>
    simp only [hpath] at h ⊢
    obtain ⟨hsession, hwritten⟩ := written_of_write (ends_of_result h)
    exact ⟨hsession, by rintro _ ⟨⟩; exact hwritten, fun h => by cases h⟩

/-- Once the module is made, a run is two writes (`run`): all that it asks for after the first write
stays as it was for the module, and so it cannot fail. -/
theorem ends_run_iff {file : Option String} {source : String} {summary : Summary} {w₁ w₃ : Work}
    (hgenerate : generate.Ends w source w₁) :
    (run file).Ends w summary w₃ ↔ ∃ report locales w₂,
      untranslated.Ends w report w₁ ∧ supportedLocales.Ends w locales w₁ ∧
      (write (w.session.config.outputPath w.session.project) source).Ends w₁ () w₂ ∧
      (writeReport file report).Ends w₂ () w₃ ∧
      summary = ⟨w.session.config.outputPath w.session.project, locales.map (·.tag),
        w₁.session.entries.length, report⟩ := by
  obtain ⟨r, locales, hresources, hready⟩ := ready_of_generate hgenerate
  obtain ⟨-, hconfig, hproject⟩ := loaded_of_resources hresources
  have hlocales := ends_supportedLocales hresources hready
  have hreport := ends_untranslated hresources hready
  -- the writes leave the session as loading has left it, so it stays ready
  have hkept : ∀ {w₂ : Work}, w₂.session = w₁.session →
      supportedLocales.Ends w₂ locales w₂ ∧ messages.Ends w₂ w₁.session.entries w₂ ∧
      untranslated.Ends w₂ (untranslatedIn w₁.session.entries r.2.locale locales) w₂ := by
    intro w₂ hsession
    have hready₂ : w₂.session.Ready r locales := hsession ▸ hready
    have hloaded := ends_resources hready₂.loaded
    rw [← hsession]
    exact ⟨ends_supportedLocales hloaded hready₂, ends_messages hready₂.loaded,
      ends_untranslated hloaded hready₂⟩
  constructor
  · intro h
    obtain ⟨_, _, hgenerate', h⟩ := ends_bind_iff.1 h
    obtain ⟨rfl, rfl⟩ := hgenerate.unique hgenerate'
    obtain ⟨path, _, hpath, h⟩ := ends_bind_iff.1 h
    obtain ⟨heq, rfl⟩ := ends_ofExcept_iff.1 hpath
    cases heq
    rw [hconfig, hproject] at h
    obtain ⟨_, w₂, hmodule, h⟩ := ends_bind_iff.1 h
    obtain ⟨hsession, -⟩ := written_of_write hmodule
    obtain ⟨-, -, hreport₂⟩ := hkept hsession
    obtain ⟨_, _, hreport', h⟩ := ends_bind_iff.1 h
    obtain ⟨rfl, rfl⟩ := hreport₂.unique hreport'
    obtain ⟨_, _, ⟨-, rfl⟩, h⟩ := ends_bind_iff.1 h
    obtain ⟨_, w₃, hwritten, h⟩ := ends_bind_iff.1 h
    obtain ⟨hsession', -⟩ := written_of_writeReport hwritten
    obtain ⟨hlocales₃, hmessages₃, -⟩ := hkept (hsession'.trans hsession)
    obtain ⟨_, _, hlocales', h⟩ := ends_bind_iff.1 h
    obtain ⟨rfl, rfl⟩ := hlocales₃.unique hlocales'
    obtain ⟨rfl, rfl⟩ := h.unique (hmessages₃.map _)
    exact ⟨_, locales, w₂, hreport, hlocales, hmodule, hwritten, rfl⟩
  · rintro ⟨_, _, w₂, hreport', hlocales', hmodule, hwritten, rfl⟩
    obtain ⟨rfl, -⟩ := hreport.unique hreport'
    obtain ⟨rfl, -⟩ := hlocales.unique hlocales'
    obtain ⟨hsession, -⟩ := written_of_write hmodule
    obtain ⟨hsession', -⟩ := written_of_writeReport hwritten
    obtain ⟨-, -, hreport₂⟩ := hkept hsession
    obtain ⟨hlocales₃, hmessages₃, -⟩ := hkept (hsession'.trans hsession)
    apply ends_bind_iff.2
    refine ⟨source, w₁, hgenerate, ?_⟩
    apply ends_bind_iff.2
    refine ⟨_, w₁, ends_ofExcept_iff.2 ⟨rfl, rfl⟩, ?_⟩
    rw [hconfig, hproject]
    apply ends_bind_iff.2
    refine ⟨(), w₂, hmodule, ?_⟩
    apply ends_bind_iff.2
    refine ⟨_, w₂, hreport₂, ?_⟩
    apply ends_bind_iff.2
    refine ⟨(), w₂, ⟨rfl, rfl⟩, ?_⟩
    apply ends_bind_iff.2
    refine ⟨(), w₃, hwritten, ?_⟩
    apply ends_bind_iff.2
    exact ⟨locales, w₃, hlocales₃, hmessages₃.map _⟩

/-- Once the module is made, a run succeeds if the file system takes its writes (`TakesWrites`), and
leaves the module and the report behind. -/
theorem exists_summary_of_generate {file : Option String} {source : String}
    (h : (generate w).2.result = .ok source) (hwrites : TakesWrites file w) :
    ∃ summary report, (run file w).2.result = .ok summary ∧
      (untranslated w).2.result = .ok report ∧
      Leaves w.files (w.session.config.outputPath w.session.project) source
        (w.session.reportPath? file) (reportText report) (run file w).1.files := by
  have hgenerate := ends_of_result h
  obtain ⟨r, locales, hresources, hready⟩ := ready_of_generate hgenerate
  obtain ⟨-, hconfig, hproject⟩ := loaded_of_resources hresources
  have hreport := ends_untranslated hresources hready
  have hmodule := ends_of_result (hwrites.module source h)
  have hreportWritten := ends_of_result (hwrites.report source _ h hreport.1)
  have hrun := (ends_run_iff hgenerate).2 ⟨_, locales, _, hreport,
    ends_supportedLocales hresources hready, hmodule, hreportWritten, rfl⟩
  refine ⟨_, _, hrun.1, hreport.1, ?_⟩
  rw [hrun.2]
  obtain ⟨hsession, hwritten⟩ := written_of_write hmodule
  obtain ⟨-, hwritten', hnone⟩ := written_of_writeReport hreportWritten
  -- the path of the report is read from settings that nothing has changed
  have hpath : (write (w.session.config.outputPath w.session.project) source
      (generate w).1).1.session.reportPath? file = w.session.reportPath? file := by
    unfold reportPath?
    rw [hsession, hconfig, hproject]
  rw [quiet_generate w] at hwritten
  rw [hpath] at hwritten' hnone
  exact leaves_of_written hwritten hwritten' hnone

/-- A file system has taken what a run wrote (`TakesWrites`) that has succeeded. -/
theorem takesWrites_of_run {file : Option String} {summary : Summary}
    (h : (run file w).2.result = .ok summary) : TakesWrites file w := by
  have hrun := ends_of_result h
  obtain ⟨source, w₁, hgenerate, -⟩ := ends_bind_iff.1 hrun
  obtain ⟨report, locales, w₂, hreport, -, hmodule, hwritten, -⟩ := (ends_run_iff hgenerate).1 hrun
  -- Both writes of the run have succeeded, and they are the writes that are asked about.
  constructor
  · intro source' hsource'
    obtain ⟨rfl, -⟩ := hgenerate.unique ⟨hsource', rfl⟩
    rw [hgenerate.2]
    exact hmodule.1
  · intro source' report' hsource' hreport'
    obtain ⟨rfl, -⟩ := hgenerate.unique ⟨hsource', rfl⟩
    obtain ⟨rfl, -⟩ := hreport.unique ⟨hreport', rfl⟩
    rw [hgenerate.2, hmodule.2]
    exact hwritten.1

/-- A run is all or nothing, if the file system takes what it writes. A run that fails has changed
no file. A run that succeeds has written the module that could be made before it, and the report
that could be made before it where one is asked for; nothing else has changed but that there may be
directories for the two. -/
theorem run_all_or_nothing (file : Option String) (w : Work) (hwrites : TakesWrites file w) :
    (∀ e, (run file w).2.result = .error e → (run file w).1.files = w.files) ∧
      ∀ summary, (run file w).2.result = .ok summary → ∃ source report,
        (generate w).2.result = .ok source ∧ (untranslated w).2.result = .ok report ∧
        Leaves w.files (w.session.config.outputPath w.session.project) source
          (w.session.reportPath? file) (reportText report) (run file w).1.files := by
  cases hgenerate : (generate w).2.result with
  | error e =>
    -- the run ends where the module could not be made
    obtain ⟨hstate, hresult⟩ := bind_of_error hgenerate
    constructor
    · intro e' _
      exact (congrArg Work.files hstate).trans (quiet_generate w)
    · intro summary hsummary
      cases hresult.symm.trans hsummary
  | ok source =>
    obtain ⟨summary, report, hresult, hreport, hleaves⟩ :=
      exists_summary_of_generate hgenerate hwrites
    constructor
    · intro e herror
      cases hresult.symm.trans herror
    · intro _ _
      exact ⟨source, report, rfl, hreport, hleaves⟩

/-- A project with one message on a disk. -/
def greetingDisk : Work :=
  ⟨start (Json.decoder 100) .standard ".", { FileSystem.ofTexts
    [("/l10n/app_en.arb", "\x7b\"greeting\": \"Hello\"\x7d")] with mount := some ⟨".", ⟨"/", []⟩⟩ }⟩

/-- A run on a disk leaves the module and the report behind. -/
theorem run_all_or_nothing_greetingDisk :
    TakesWrites (some "missing.json") greetingDisk ∧
      ∃ source report, (generate greetingDisk).2.result = .ok source ∧
        (untranslated greetingDisk).2.result = .ok report ∧
        Leaves greetingDisk.files "app_localizations.py" source (some "missing.json")
          (reportText report) (run (some "missing.json") greetingDisk).1.files := by
  have hrun : (run (some "missing.json") greetingDisk).2.result.map (·.outputPath) =
      .ok "app_localizations.py" := by
    decide +kernel
  obtain ⟨summary, hsummary, -⟩ := map_eq_ok_iff.1 hrun
  have hwrites := takesWrites_of_run hsummary
  exact ⟨hwrites, (run_all_or_nothing _ _ hwrites).2 summary hsummary⟩

/-! ## Reports in the place of the module -/

/-- Whether the module stands in its place after a run that succeeds. -/
def KeepsModule (file : Option String) (w : Work) : Prop :=
  ∀ summary source, (run file w).2.result = .ok summary → (generate w).2.result = .ok source →
    ∃ place, (run file w).1.files.resolve (w.session.config.outputPath w.session.project) =
        .ok place ∧
      (run file w).1.files.file? place = some (.text source)

/-- A project with one message in memory. -/
def greetingMemory : Work :=
  ⟨start (Json.decoder 100) .standard ".",
    .ofTexts [("l10n/app_en.arb", "\x7b\"greeting\": \"Hello\"\x7d")]⟩

/-- A run after which the place of the module holds another text does not keep the module
(`KeepsModule`). -/
private theorem not_keepsModule {file : Option String} {w : Work} {place : Path} {n : Nat}
    (hrun : (run file w).2.result.map (·.messageCount) = .ok n)
    (hplace : (run file w).1.files.resolve (w.session.config.outputPath w.session.project) =
      .ok place)
    (hsource : (generate w).2.result.map
      (fun source => decide ((run file w).1.files.file? place = some (.text source))) = .ok false) :
    TakesWrites file w ∧ ¬ KeepsModule file w := by
  obtain ⟨summary, hsummary, -⟩ := map_eq_ok_iff.1 hrun
  obtain ⟨source, hgenerate, hheld⟩ := map_eq_ok_iff.1 hsource
  refine ⟨takesWrites_of_run hsummary, fun hkeeps => ?_⟩
  obtain ⟨place', hplace', hheld'⟩ := hkeeps summary source hsummary hgenerate
  cases hplace.symm.trans hplace'
  exact of_decide_eq_false hheld hheld'

/-- A report whose path is that of the module, or leads to the same place on a disk, stands in the
place of the module after the run. -/
theorem report_in_place_of_module :
    (TakesWrites (some "app_localizations.py") greetingMemory ∧
      ¬ KeepsModule (some "app_localizations.py") greetingMemory) ∧
    (TakesWrites (some "l10n/../app_localizations.py") greetingDisk ∧
      ¬ KeepsModule (some "l10n/../app_localizations.py") greetingDisk) := by
  constructor
  · apply @not_keepsModule _ _ ⟨"", ["app_localizations.py"]⟩ 1 <;> decide +kernel
  · apply @not_keepsModule _ _ ⟨"/", ["app_localizations.py"]⟩ 1 <;> decide +kernel

end Session

end Parlance
