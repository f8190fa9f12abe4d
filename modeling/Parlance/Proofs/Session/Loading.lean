import Parlance.Json.Reader
import Parlance.Proofs.Session.Calls

/-!
# Loading that fails

A session should be as it was after loading has failed, so that whatever is asked of it fails again
(`FailsForGood`). This is so just when no message of the template fails to be built from bundles
that are found (`failsForGood_iff`). For bundles stay loaded when a message fails, and from then on
the session goes by an empty list of messages (`entries_of_build_error`,
`not_failsForGood_missingText`).
-/

namespace Parlance

open Session

/-- A call fails and changes nothing. -/
def Call.Refused (c : Call) (w : Work) (e : Failure) : Prop :=
  (c.job w).1 = w ∧ (c.job w).2.result = .error e

/-- Whether loading that fails, fails for good: after any calls, if the bundles are not loaded and
loading them fails, then a call is refused with the failure, and so is every call after it. -/
def FailsForGood (start : Work) : Prop :=
  ∀ before e, (afterCalls before start).session.loaded = none →
    (load (afterCalls before start)).2.result = .error e →
    ∀ c : Call, c.Refused (afterCalls before start) e ∧
      ∀ (later : List Call) (c' : Call),
        c'.Refused (afterCalls later (c.job (afterCalls before start)).1) e

/-! ## Work that cannot be loaded -/

section

variable {w : Work}

/-- A call that has to load bundles that are not found is refused (`Refused`). -/
theorem Call.refused_of_findBundles_error (c : Call) {e : Failure} (hw : w.session.loaded = none)
    (hfind : w.session.findBundles w.files = .error e) : c.Refused w e := by
  have hload := load_of_findBundles_error hfind
  obtain ⟨hstate, hresult⟩ := c.loads_job.fails w e hw (by rw [hload]; rfl)
  exact ⟨hstate.trans (by rw [hload]), hresult⟩

/-- Calls that are each refused (`Refused`) change nothing. -/
private theorem afterCalls_of_refused {e : Failure} (h : ∀ c : Call, c.Refused w e)
    (calls : List Call) : afterCalls calls w = w := by
  induction calls with
  | nil => rfl
  | cons c rest ih => rw [afterCalls, (h c).1, ih]

/-- If all messages are built (`buildEntries`) from the bundles that are found, then calls either
change nothing or load the bundles. -/
private theorem afterCalls_eq_or_loaded (hw : w.session.loaded = none)
    (hbuild : ∀ r, w.session.findBundles w.files = .ok r →
      ∃ entries, (buildEntries w.session.config r).result = .ok entries) (calls : List Call) :
    afterCalls calls w = w ∨ (afterCalls calls w).session.loaded ≠ none := by
  cases hfind : w.session.findBundles w.files with
  | error e =>
    exact .inl (afterCalls_of_refused (fun c => c.refused_of_findBundles_error hw hfind) calls)
  | ok r =>
    obtain ⟨entries, hentries⟩ := hbuild r hfind
    have hload : (load w).2.result = .ok r := by
      rw [(load_of_findBundles_ok hfind).2, hentries]
      rfl
    cases calls with
    | nil => exact .inl rfl
    | cons c rest =>
      -- the first call loads the bundles, and the others leave the session alone
      have hloaded : (c.job w).1.session.loaded ≠ none := by
        rw [c.loads_job.session w r hw hload, loaded_of_load hload]
        exact Option.some_ne_none r
      right
      rw [afterCalls, session_afterCalls hloaded]
      exact hloaded

/-- A call that fails for a message (`buildEntries`) leaves the bundles loaded, so that no later
call builds the messages. -/
theorem entries_of_build_error (c : Call) {r : Collection × Bundle} {e : Failure}
    (hw : w.session.loaded = none) (hfind : w.session.findBundles w.files = .ok r)
    (hbuild : (buildEntries w.session.config r).result = .error e) (later : List Call) :
    (c.job w).2.result = .error e ∧
      (messages (afterCalls later (c.job w).1)).2.result = .ok w.session.entries := by
  obtain ⟨hstate, hresult⟩ := load_of_findBundles_ok hfind
  rw [hbuild] at hstate hresult
  obtain ⟨hcall, hfailed⟩ := c.loads_job.fails w e hw hresult
  refine ⟨hfailed, ?_⟩
  have hloaded : (c.job w).1.session.loaded ≠ none := by
    rw [hcall, hstate]
    exact Option.some_ne_none r
  -- the bundles are kept, so later calls do not load again
  have hsession := session_afterCalls hloaded later
  rw [messages_of_loaded (hsession ▸ hloaded), hsession, hcall, hstate]
  rfl

/-- If loading fails for good (`FailsForGood`), then all messages are built from bundles that are
found. -/
theorem FailsForGood.build_ok (h : FailsForGood w) (hw : w.session.loaded = none)
    {r : Collection × Bundle} (hfind : w.session.findBundles w.files = .ok r) :
    ∃ entries, (buildEntries w.session.config r).result = .ok entries := by
  cases hbuild : (buildEntries w.session.config r).result with
  | ok entries => exact ⟨entries, rfl⟩
  | error e =>
    have hload : (load w).2.result = .error e := by
      rw [(load_of_findBundles_ok hfind).2, hbuild]
      rfl
    -- after the first call has failed, the messages are there, as the session held them before
    have hheld := (entries_of_build_error .messages hw hfind hbuild []).2
    have hrefused := ((h [] e hw hload .messages).2 [] .messages).2
    cases hrefused.symm.trans hheld

/-- If all messages are built from bundles that are found, then loading fails for good
(`FailsForGood`). -/
theorem failsForGood_of_build_ok (hw : w.session.loaded = none)
    (hbuild : ∀ r, w.session.findBundles w.files = .ok r →
      ∃ entries, (buildEntries w.session.config r).result = .ok entries) : FailsForGood w := by
  intro before e hnone he c
  rw [(afterCalls_eq_or_loaded hw hbuild before).resolve_right (not_not.2 hnone)] at he ⊢
  cases hfind : w.session.findBundles w.files with
  | ok r =>
    obtain ⟨entries, hentries⟩ := hbuild r hfind
    rw [(load_of_findBundles_ok hfind).2, hentries] at he
    cases he
  | error e' =>
    rw [load_of_findBundles_error hfind] at he
    cases he
    -- No bundles are found, so every call is refused as loading is and changes nothing.
    have hrefused := fun c : Call => c.refused_of_findBundles_error hw hfind
    refine ⟨hrefused c, fun later c' => ?_⟩
    rw [(hrefused c).1, afterCalls_of_refused hrefused later]
    exact hrefused c'

end

/-- Loading fails for good (`FailsForGood`) if and only if every message is built whenever the
bundles are found. -/
theorem failsForGood_iff (decoder : JsonDecoder) (config : Config) (project : String)
    (files : FileSystem) :
    FailsForGood ⟨Session.start decoder config project, files⟩ ↔
      ∀ r, (Session.start decoder config project).findBundles files = .ok r →
        ∃ entries, (buildEntries config r).result = .ok entries := by
  constructor
  · intro h r hfind
    exact h.build_ok rfl hfind
  · intro hbuild
    exact failsForGood_of_build_ok rfl hbuild

/-- A template whose only message has no text. -/
def silentWork : Work :=
  ⟨Session.start (Json.decoder 100) .standard ".",
    .ofTexts [("l10n/app_en.arb", "\x7b\"greeting\":null\x7d")]⟩

/-- After the messages could not be loaded for want of a text, a run succeeds and writes a module
that has no messages. -/
theorem not_failsForGood_missingText :
    (Call.messages.job silentWork).2.result =
        .error (.fault (.missingResource "l10n/app_en.arb" "greeting")) ∧
      ((Call.run none).job (afterCalls [.messages] silentWork)).2.result.map (·.messageCount) =
        .ok 0 ∧
      ¬ FailsForGood silentWork := by
  have hload : (load silentWork).2.result =
      .error (.fault (.missingResource "l10n/app_en.arb" "greeting")) := by
    have hnames : (load silentWork).2.result.map (·.1.directory) =
        .error (.fault (.missingResource "l10n/app_en.arb" "greeting")) := by
      decide +kernel
    exact map_eq_error_iff.1 hnames
  have hrun : ((Call.run none).job (afterCalls [.messages] silentWork)).2.result.map
      (·.messageCount) = .ok 0 := by
    decide +kernel
  refine ⟨(Call.messages.loads_job.fails _ _ rfl hload).2, hrun, fun h => ?_⟩
  -- Failing for good would have the run refused as well.
  have hrefused := ((h [] _ rfl hload .messages).2 [] (.run none)).2
  rw [afterCalls, afterCalls] at hrun
  obtain ⟨summary, hsummary, -⟩ := map_eq_ok_iff.1 hrun
  cases hrefused.symm.trans hsummary

end Parlance
