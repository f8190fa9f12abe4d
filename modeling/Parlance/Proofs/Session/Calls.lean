import Parlance.Proofs.Results
import Parlance.Session

/-!
# Calls of a session

Whatever a program asks of a session first needs its bundles. So a call loads them if that has not
been done: it fails where loading fails, and else leaves the session as loading does
(`Call.loads_job`). A session that has loaded its bundles stays as it is, whatever is asked of it
(`session_afterCalls`).
-/

namespace Parlance

/-- What a program can ask of a session. -/
inductive Call where
  | messages
  | templateLocale
  | supportedLocales
  | generate
  | untranslated
  | run (file : Option String)
deriving Repr

namespace Call

/-- What a call gives. -/
def Result : Call → Type
  | messages => List Entry
  | templateLocale => Locale
  | supportedLocales => List Locale
  | generate => String
  | untranslated => Assoc (List String)
  | run _ => Summary

/-- What a call does. -/
def job : (c : Call) → Job c.Result
  | messages => Session.messages
  | templateLocale => Session.templateLocale
  | supportedLocales => Session.supportedLocales
  | generate => Session.generate
  | untranslated => Session.untranslated
  | run file => Session.run file

end Call

/-- The work after some calls, whether they fail or not. -/
def afterCalls : List Call → Work → Work
  | [], w => w
  | c :: rest, w => afterCalls rest (c.job w).1

/-! ## Jobs after one another -/

namespace Job

variable {α β : Type} {x : Job α} {f : α → Job β} {w : Work}

/-- A job that fails ends what would come after it. -/
theorem bind_of_error {e : Failure} (h : (x w).2.result = .error e) :
    (x.bind f w).1 = (x w).1 ∧ (x.bind f w).2.result = .error e := by
  unfold Job.bind
  generalize x w = y at h ⊢
  obtain ⟨w', result, logs⟩ := y
  cases h
  exact ⟨rfl, rfl⟩

/-- What comes after a job goes on where the job has ended. -/
theorem bind_of_ok {a : α} (h : (x w).2.result = .ok a) :
    (x.bind f w).1 = (f a (x w).1).1 ∧ (x.bind f w).2.result = (f a (x w).1).2.result := by
  unfold Job.bind
  generalize x w = y at h ⊢
  obtain ⟨w', result, logs⟩ := y
  cases h
  exact ⟨rfl, rfl⟩

/-- Whether a job leaves a session alone that has loaded its bundles. -/
def Steady (x : Job α) : Prop := ∀ w, w.session.loaded ≠ none → (x w).1.session = w.session

/-- Whether a job loads the bundles first, if that has not been done, and does nothing else to the
session. -/
structure Loads (x : Job α) : Prop where
  steady : x.Steady
  fails : ∀ w e, w.session.loaded = none → (Session.load w).2.result = .error e →
    (x w).1 = (Session.load w).1 ∧ (x w).2.result = .error e
  session : ∀ w r, w.session.loaded = none → (Session.load w).2.result = .ok r →
    (x w).1.session = (Session.load w).1.session

/-- Giving a result leaves the session alone (`Steady`). -/
private theorem steady_pure (a : α) : Steady (pure a) := fun _ _ => rfl

/-- A computation (`ofExcept`) leaves the session alone. -/
private theorem steady_ofExcept (g : Work → Except Failure α) : Steady (ofExcept g) :=
    fun _ _ => rfl

/-- A computation with a log (`ofLogged`) leaves the session alone. -/
private theorem steady_ofLogged (g : Work → Logged Failure α) : Steady (ofLogged g) :=
    fun _ _ => rfl

/-- Two steady (`Steady`) jobs are steady one after the other. -/
theorem Steady.bind (hx : Steady x) (hf : ∀ a, Steady (f a)) : Steady (x.bind f) := by
  intro w hw
  have hsession := hx w hw
  cases hresult : (x w).2.result with
  | error e => rw [(bind_of_error hresult).1, hsession]
  | ok a =>
    rw [(bind_of_ok hresult).1, hf a (x w).1 (by rwa [hsession]), hsession]

/-- A steady (`Steady`) job is steady with another result. -/
theorem Steady.map (hx : Steady x) (g : α → β) : Steady (x.map g) :=
  hx.bind fun a => steady_pure (g a)

end Job

namespace Session

open Job

variable {w : Work}

/-! ## Loading -/

/-- The messages of the template, as a session with some settings builds them. -/
def buildEntries (config : Config) (r : Collection × Bundle) : Logged Failure (List Entry) :=
  Logged.traverse (Entry.build (entryOptions config) r.2 r.1) r.2.keys

/-- Bundles that are not found (`findBundles`) leave the work as it was. -/
theorem load_of_findBundles_error {e : Failure} (h : w.session.findBundles w.files = .error e) :
    load w = (w, .throw e) := by
  rw [load, h]

/-- Bundles that are found (`findBundles`) stay loaded, and so do the messages if all of them are
built. -/
theorem load_of_findBundles_ok {r : Collection × Bundle}
    (h : w.session.findBundles w.files = .ok r) :
    (load w).1 = { w with session := { w.session with
        loaded := some r
        entries := (buildEntries w.session.config r).result.toOption.getD w.session.entries } } ∧
      (load w).2.result = (buildEntries w.session.config r).result.map fun _ => r := by
  obtain ⟨collection, template⟩ := r
  unfold load buildEntries
  rw [h]
  dsimp only
  -- whether the entries were built decides what is kept
  generalize Logged.traverse _ _ = built
  obtain ⟨result, logs⟩ := built
  cases result <;> exact ⟨rfl, rfl⟩

/-- Bundles are loaded after loading (`load`) has succeeded. -/
theorem loaded_of_load {r : Collection × Bundle} (h : (load w).2.result = .ok r) :
    (load w).1.session.loaded = some r := by
  cases hfind : w.session.findBundles w.files with
  | error e =>
    rw [load_of_findBundles_error hfind] at h
    cases h
  | ok found =>
    obtain ⟨hstate, hresult⟩ := load_of_findBundles_ok hfind
    obtain ⟨entries, -, rfl⟩ := map_eq_ok_iff.1 (hresult.symm.trans h)
    rw [hstate]

/-- A session that has loaded nothing (`Session.entries`) loads. -/
theorem resources_of_none (h : w.session.loaded = none) : resources w = load w := by
  rw [resources, h]

/-- A session that has loaded gives what it holds. -/
theorem resources_of_some {r : Collection × Bundle} (h : w.session.loaded = some r) :
    resources w = (w, .pure r) := by
  rw [resources, h]

/-- Asking for the bundles loads (`Loads`) them. -/
theorem loads_resources : Loads resources where
  steady w hw := by
    obtain ⟨r, hr⟩ := Option.ne_none_iff_exists'.1 hw
    rw [resources_of_some hr]
  fails w e hw he := by
    rw [resources_of_none hw]
    exact ⟨rfl, he⟩
  session w r hw _ := by rw [resources_of_none hw]

end Session

/-- A job that loads (`Loads`) first and then leaves the session alone loads the bundles. -/
theorem Job.Loads.bind {α β : Type} {x : Job α} {f : α → Job β} (hx : x.Loads)
    (hf : ∀ a, (f a).Steady) : (x.bind f).Loads := by
  refine ⟨hx.steady.bind hf, ?_, ?_⟩
  · intro w e hw he
    obtain ⟨hstate, hresult⟩ := hx.fails w e hw he
    obtain ⟨hstate', hresult'⟩ := bind_of_error (f := f) hresult
    exact ⟨hstate'.trans hstate, hresult'⟩
  · intro w r hw hr
    have hsession := hx.session w r hw hr
    cases hresult : (x w).2.result with
    | error e => rw [(bind_of_error hresult).1, hsession]
    | ok a =>
      -- what follows meets a session that has loaded its bundles
      have hloaded : (x w).1.session.loaded ≠ none := by
        rw [hsession, Session.loaded_of_load hr]
        exact Option.some_ne_none r
      rw [(bind_of_ok hresult).1, hf a _ hloaded, hsession]

/-- A job that loads (`Loads`) first loads first with another result. -/
theorem Job.Loads.map {α β : Type} {x : Job α} (hx : x.Loads) (g : α → β) : (x.map g).Loads :=
  hx.bind fun a => steady_pure (g a)

/-! ## Calls -/

namespace Session

open Job

/-- Writing (`write`) a file leaves the session alone. -/
private theorem steady_write (path text : String) : Steady (write path text) := by
  intro w _
  unfold write
  dsimp only
  -- a write that fails may have made a directory, which is no part of the session
  split
  · rfl
  · split <;> rfl

/-- Writing a report (`writeReport`) leaves the session alone. -/
private theorem steady_writeReport (file : Option String) (report : Assoc (List String)) :
    Steady (writeReport file report) := by
  intro w hw
  unfold writeReport
  split
  · rfl
  · exact steady_write _ _ w hw

/-- Asking for the messages loads (`Loads`) first. -/
private theorem loads_messages : Loads messages :=
  loads_resources.bind fun _ => steady_ofExcept _

/-- A session that has loaded its bundles gives the messages (`messages`) that it holds. -/
theorem messages_of_loaded (h : w.session.loaded ≠ none) :
    messages w = (w, .pure w.session.entries) := by
  obtain ⟨r, hr⟩ := Option.ne_none_iff_exists'.1 h
  rw [messages, Job.bind, resources_of_some hr]
  rfl

/-- Asking for the locale of the template (`templateLocale`) loads first. -/
private theorem loads_templateLocale : Loads templateLocale := loads_resources.map _

/-- Asking for the supported locales (`supportedLocales`) loads first. -/
private theorem loads_supportedLocales : Loads supportedLocales :=
  loads_resources.bind fun _ => steady_ofExcept _

/-- Making the module loads (`Loads`) first. -/
private theorem loads_generate : Loads generate := by
  refine loads_resources.bind fun r => ?_
  refine (steady_ofExcept _).bind fun header => ?_
  refine loads_messages.steady.bind fun entries => ?_
  exact loads_supportedLocales.steady.bind fun locales => steady_ofExcept _

/-- Making the report loads (`Loads`) first. -/
private theorem loads_untranslated : Loads untranslated := by
  refine loads_templateLocale.bind fun template => ?_
  exact loads_supportedLocales.steady.bind fun locales => loads_messages.steady.map _

/-- A run loads (`Loads`) first. -/
private theorem loads_run (file : Option String) : Loads (run file) := by
  refine loads_generate.bind fun source => ?_
  refine (steady_ofExcept _).bind fun path => ?_
  refine (steady_write path source).bind fun _ => ?_
  refine loads_untranslated.steady.bind fun report => ?_
  refine (steady_ofLogged _).bind fun _ => ?_
  refine (steady_writeReport file report).bind fun _ => ?_
  exact loads_supportedLocales.steady.bind fun locales => loads_messages.steady.map _

end Session

/-- A call loads (`Loads`) the bundles first, and leaves alone a session that has loaded them. -/
theorem Call.loads_job (c : Call) : c.job.Loads := by
  cases c with
  | messages => exact Session.loads_messages
  | templateLocale => exact Session.loads_templateLocale
  | supportedLocales => exact Session.loads_supportedLocales
  | generate => exact Session.loads_generate
  | untranslated => exact Session.loads_untranslated
  | run file => exact Session.loads_run file

/-- A session that has loaded its bundles stays as it is, whatever is asked of it (`afterCalls`). -/
theorem session_afterCalls {w : Work} (h : w.session.loaded ≠ none) (calls : List Call) :
    (afterCalls calls w).session = w.session := by
  induction calls generalizing w with
  | nil => rfl
  | cons c rest ih =>
    have hsession := c.loads_job.steady w h
    rw [afterCalls, ih (by rwa [hsession]), hsession]

end Parlance
