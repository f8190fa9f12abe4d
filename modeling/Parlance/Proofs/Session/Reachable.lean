import Parlance.Proofs.Entry.Options
import Parlance.Proofs.Session.Arranging

/-!
# Sessions that calls lead to

A session is reachable if calls lead to it from one that has loaded nothing, whether they fail or
not; files may change between them. It holds either nothing, or bundles that were found in some
state of the files together with the messages that are built from them, or with none if a message
cannot be built (`Reachable.sound`). Of the reader of JSON it is known only that it gives nothing
but what JSON decodes to.
-/

namespace Parlance

open Session

/-! ## Calls and loading -/

/-- A call of a session that has loaded nothing leaves it as loading does (`load`). -/
theorem Job.Loads.session_eq {α : Type} {x : Job α} (hx : x.Loads) {w : Work}
    (hw : w.session.loaded = none) : (x w).1.session = (load w).1.session := by
  cases hload : (load w).2.result with
  | error e => rw [(hx.fails w e hw hload).1]
  | ok r => exact hx.session w r hw hload

namespace Session

/-- Whether calls lead to a session from one that has loaded nothing. -/
inductive Reachable : Session → Prop
  | start {decoder : JsonDecoder} (hdecoder : decoder.Documented) (config : Config)
      (project : String) : Reachable (start decoder config project)
  | call {s : Session} (h : Reachable s) (files : FileSystem) (c : Call) :
    Reachable (c.job ⟨s, files⟩).1.session

/-- Whether a session has loaded bundles of which a message cannot be built, and so holds no
messages. -/
def LacksMessages (s : Session) (r : Collection × Bundle) : Prop :=
  s.loaded = some r ∧ s.entries = [] ∧ ∃ e, (buildEntries s.config r).result = .error e

/-- Whether a session holds what loading leaves behind. -/
structure Sound (s : Session) : Prop where
  documented : s.decoder.Documented
  fresh : s.loaded = none → s.entries = []
  found : ∀ r, s.loaded = some r → ∃ files, s.findBundles files = .ok r
  built : ∀ r, s.loaded = some r →
    (buildEntries s.config r).result = .ok s.entries ∨ s.LacksMessages r

/-- A session that has loaded nothing is sound (`Sound`). -/
private theorem sound_start {decoder : JsonDecoder} (hdecoder : decoder.Documented)
    (config : Config) (project : String) : (start decoder config project).Sound where
  documented := hdecoder
  fresh _ := rfl
  found _ h := nomatch h
  built _ h := nomatch h

/-- Loading leaves a sound (`Sound`) session. -/
theorem Sound.load {s : Session} (h : s.Sound) (hnone : s.loaded = none) (files : FileSystem) :
    (Session.load ⟨s, files⟩).1.session.Sound := by
  cases hfind : s.findBundles files with
  | error e =>
    rw [load_of_findBundles_error hfind]
    exact h
  | ok r =>
    rw [(load_of_findBundles_ok hfind).1]
    refine ⟨h.documented, nofun, ?_, ?_⟩
    · intro r' hr'
      cases hr'
      exact ⟨files, hfind⟩
    · intro r' hr'
      cases hr'
      cases hbuild : (buildEntries s.config r).result with
      | ok entries => exact .inl rfl
      -- a message that cannot be built leaves the messages as they were, which is none
      | error e => exact .inr ⟨rfl, h.fresh hnone, e, hbuild⟩

/-- A call leaves a sound (`Sound`) session. -/
theorem Sound.call {s : Session} (h : s.Sound) (files : FileSystem) (c : Call) :
    (c.job ⟨s, files⟩).1.session.Sound := by
  cases hloaded : s.loaded with
  | none =>
    rw [c.loads_job.session_eq hloaded]
    exact h.load hloaded files
  | some r =>
    rw [c.loads_job.steady ⟨s, files⟩ (by simp [hloaded])]
    exact h

/-- A session that calls lead to is sound (`Sound`). -/
theorem Reachable.sound {s : Session} (h : s.Reachable) : s.Sound := by
  induction h with
  | start hdecoder config project => exact sound_start hdecoder config project
  | call _ files c ih => exact ih.call files c

end Session

/-! ## What was found -/

/-- The keys of a bundle that is read from a file (`Bundle.load`) are distinct. -/
private theorem Bundle.nodup_keys_of_load {decoder : JsonDecoder} (hdecoder : decoder.Documented)
    {fs : FileSystem} {path : String} {b : Bundle} (h : load decoder fs path = .ok b) :
    b.keys.Nodup := by
  obtain ⟨_, ⟨content, _, hdecodes⟩, _⟩ := load_eq_ok_iff.1 h
  obtain ⟨hdistinct, _⟩ := (hdecodes.decoded hdecoder).entries
  exact hdistinct.filter _

namespace Session

/-- What a sound (`Sound`) session has loaded is a sound collection with the template in it, whose
keys are distinct. -/
theorem Sound.loaded {s : Session} (h : s.Sound) {r : Collection × Bundle}
    (hr : s.loaded = some r) : r.1.Sound ∧ r.2 ∈ r.1.bundles ∧ r.2.keys.Nodup := by
  obtain ⟨files, hfind⟩ := h.found r hr
  obtain ⟨hdirectory, htemplate⟩ := ofDirectory_of_findBundles hfind
  obtain ⟨path, hload⟩ := (Collection.loads_of_ofDirectory hdirectory).2 r.2 htemplate
  exact ⟨Collection.sound_of_ofDirectory hdirectory, htemplate,
    Bundle.nodup_keys_of_load h.documented hload⟩

end Session

end Parlance
