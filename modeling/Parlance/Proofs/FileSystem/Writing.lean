import Parlance.FileSystem
import Parlance.Proofs.Results

/-!
# What a write leaves behind

Nothing is lost when a directory is made or a file is written: files and directories stay, and paths
lead where they led (`Extends`, `Extends.resolve`, `Extends.pathExists`). A file that has been
written holds its text, and every other file is as before (`place_of_writeText`).
-/

namespace Parlance.FileSystem

/-- Whether a file system has all files and directories of another one. On a disk, a directory with
no file in its place also stays so. -/
structure Extends (before after : FileSystem) : Prop where
  mount : after.mount = before.mount
  files : ∀ p, (before.file? p).isSome = true → (after.file? p).isSome = true
  directories : ∀ d, before.hasDirectory d = true → after.hasDirectory d = true
  vacant : before.mount.isSome = true → ∀ d, before.hasDirectory d = true →
    before.file? d = none → after.file? d = none

/-- What a write of a text at a path leaves behind: the text is there, its directory is there, and
nothing else has changed but that directories may have been made. -/
structure Written (before : FileSystem) (path text : String) (after : FileSystem) : Prop where
  extends_ : before.Extends after
  place : ∃ place, after.resolve path = .ok place ∧ after.file? place = some (.text text) ∧
    ∀ other, other ≠ place → after.file? other = before.file? other
  parent : after.pathExists (Path.ofString path).parent.toString = true

variable {fs before middle after : FileSystem}

/-! ## Paths lead where they led -/

/-- A file system extends (`Extends`) itself. -/
theorem Extends.refl (fs : FileSystem) : fs.Extends fs :=
  ⟨rfl, fun _ h => h, fun _ h => h, fun _ _ _ h => h⟩

/-- Extensions (`Extends`) can be made one after the other. -/
theorem Extends.trans (h : before.Extends middle) (h' : middle.Extends after) :
    before.Extends after where
  mount := h'.mount.trans h.mount
  files p hp := h'.files p (h.files p hp)
  directories d hd := h'.directories d (h.directories d hd)
  vacant hmount d hd hnone :=
    h'.vacant (h.mount ▸ hmount) d (h.directories d hd) (h.vacant hmount d hd hnone)

/-- A walk goes on (`walk`) from a directory with no file in its place. -/
private theorem walk_cons_eq_ok_iff {path q : Path} {part : String} {rest : List String} :
    fs.walk path (part :: rest) = .ok q ↔
      fs.file? path = none ∧ fs.hasDirectory path = true ∧ fs.walk (path.enter part) rest = .ok q :=
      by
  rw [walk]
  cases fs.file? path with
  | some c => simp
  | none => cases fs.hasDirectory path <;> simp

/-- A walk that goes through (`walk`) goes through in every extension. -/
theorem Extends.walk (h : before.Extends after) (hmount : before.mount.isSome = true)
    {path q : Path} {parts : List String} (hwalk : before.walk path parts = .ok q) :
    after.walk path parts = .ok q := by
  induction parts generalizing path with
  | nil => exact hwalk
  | cons part rest ih =>
    obtain ⟨hnone, hdirectory, hrest⟩ := walk_cons_eq_ok_iff.1 hwalk
    -- the directory that the walk goes through is still one
    apply walk_cons_eq_ok_iff.2
    exact ⟨h.vacant hmount path hdirectory hnone, h.directories path hdirectory, ih hrest⟩

/-- A path leads to the same place (`resolve`) in every extension. -/
theorem Extends.resolve (h : before.Extends after) {path : String} {q : Path}
    (hpath : before.resolve path = .ok q) : after.resolve path = .ok q := by
  unfold FileSystem.resolve systemPath at hpath ⊢
  rw [h.mount]
  cases hmount : before.mount with
  | none => simpa only [hmount] using hpath
  | some m =>
    simp only [hmount] at hpath ⊢
    exact h.walk (by rw [hmount]; rfl) hpath

/-- A path exists (`pathExists`) if and only if it leads to a file or to a directory. -/
private theorem pathExists_iff {path : String} :
    fs.pathExists path = true ↔
      ∃ q, fs.resolve path = .ok q ∧ ((fs.file? q).isSome = true ∨ fs.hasDirectory q = true) := by
  unfold FileSystem.pathExists
  cases fs.resolve path <;> simp

/-- What exists (`pathExists`) exists in every extension. -/
theorem Extends.pathExists (h : before.Extends after) {path : String}
    (hpath : before.pathExists path = true) : after.pathExists path = true := by
  obtain ⟨q, hq, hthere⟩ := pathExists_iff.1 hpath
  exact pathExists_iff.2 ⟨q, h.resolve hq, hthere.imp (h.files q) (h.directories q)⟩

/-! ## Directories are made -/

/-- A directory (`hasDirectory`) that is added is there. -/
private theorem hasDirectory_withDirectory_self (fs : FileSystem) (path : Path) :
    (fs.withDirectory path).hasDirectory path = true := by
  unfold withDirectory
  split
  · assumption
  · simp [hasDirectory]

/-- Adding a directory (`withDirectory`) changes no file. -/
@[simp] theorem file?_withDirectory (fs : FileSystem) (path p : Path) :
    (fs.withDirectory path).file? p = fs.file? p := by
  unfold withDirectory
  split <;> rfl

/-- One more directory extends (`Extends`) a file system. -/
private theorem extends_addDirectory (fs : FileSystem) (path : Path) :
    fs.Extends { fs with directories := fs.directories ++ [path] } where
  mount := rfl
  files _ h := h
  directories d h := by
    simp only [hasDirectory, Bool.or_eq_true, List.any_append] at h ⊢
    exact h.imp_right .inl
  vacant _ _ _ h := h

/-- `withDirectory` extends a file system, be the directory new or not. -/
theorem extends_withDirectory (fs : FileSystem) (path : Path) :
    fs.Extends (fs.withDirectory path) := by
  unfold withDirectory
  split
  · exact .refl fs
  · exact extends_addDirectory fs path

/-- Directories that are made one after the other (`makeAlong`) can be walked through. -/
theorem walk_of_makeAlong {path : Path} {parts : List String}
    (h : fs.makeAlong path parts = .ok after) :
    fs.Extends after ∧ (∀ p, after.file? p = fs.file? p) ∧
      ∃ q, after.walk path parts = .ok q ∧ after.hasDirectory q = true := by
  induction parts generalizing fs path with
  | nil =>
    unfold makeAlong at h
    split at h
    · cases h
    · cases h
      exact ⟨extends_withDirectory fs path, file?_withDirectory fs path, path, rfl,
        hasDirectory_withDirectory_self fs path⟩
  | cons part rest ih =>
    unfold makeAlong at h
    split at h
    · cases h
    · next hfile =>
      obtain ⟨hextends, hfiles, q, hwalk, hdirectory⟩ := ih h
      refine ⟨(extends_withDirectory fs path).trans hextends, ?_, q, ?_, hdirectory⟩
      · intro p
        rw [hfiles, file?_withDirectory]
      · -- the first directory is there since it was made, for none is lost
        apply walk_cons_eq_ok_iff.2
        refine ⟨?_, ?_, hwalk⟩
        · rw [hfiles, file?_withDirectory]
          simpa using hfile
        · exact hextends.directories path (hasDirectory_withDirectory_self fs path)

/-- A directory that has been made (`makeDirectory`) is there, and no file has changed. -/
theorem pathExists_of_makeDirectory {path : String} (h : fs.makeDirectory path = .ok after) :
    fs.Extends after ∧ (∀ p, after.file? p = fs.file? p) ∧ after.pathExists path = true := by
  unfold makeDirectory at h
  split at h
  · next hmount =>
    cases h
    refine ⟨extends_addDirectory fs _, fun _ => rfl, ?_⟩
    simp [FileSystem.pathExists, FileSystem.resolve, hmount, hasDirectory]
  · next m hmount =>
    -- on a mounted system the path is walked, and ends at a directory
    obtain ⟨hextends, hfiles, q, hwalk, hdirectory⟩ := walk_of_makeAlong h
    refine ⟨hextends, hfiles, pathExists_iff.2 ⟨q, ?_, .inr hdirectory⟩⟩
    unfold FileSystem.resolve systemPath
    unfold systemPath at hwalk
    rw [hextends.mount]
    simpa only [hmount] using hwalk

/-! ## Texts are put -/

/-- Replacing what stands at a place changes what is found there and nowhere else. -/
private theorem find?_map_replace (files : List (Path × Content)) (place p : Path) (c : Content) :
    ((files.map fun e => if e.1 == place then (place, c) else e).find? (·.1 == p)).map (·.2) =
      if p = place ∧ place ∈ files.map (·.1) then some c
      else (files.find? (·.1 == p)).map (·.2) := by
  induction files with
  | nil => simp
  | cons e rest ih =>
    rw [List.map_cons, List.find?_cons, List.find?_cons]
    -- An entry at `place` is replaced, and any other is left as it is; only then does it matter
    -- whether it is the one that is looked for.
    by_cases he : e.1 = place
    · by_cases hp : p = place
      · simp [he, hp]
      · have hother : (place == p) = false := by simpa using Ne.symm hp
        simpa [he, hp, hother] using ih
    · by_cases hep : e.1 = p
      · have hne : p ≠ place := fun h => he (hep.trans h)
        simp [hep, hne]
      · have hother : (e.1 == p) = false := by simpa using hep
        have hmem : place ∈ (e :: rest).map (·.1) ↔ place ∈ rest.map (·.1) := by
          rw [List.map_cons, List.mem_cons, or_iff_right (Ne.symm he)]
        simp only [hmem]
        simpa [he, hother] using ih

/-- A place that is given a text (`putText`) holds it, and every other place holds what it held. -/
theorem file?_putText (fs : FileSystem) (place p : Path) (text : String) :
    (fs.putText place text).file? p = if p = place then some (.text text) else fs.file? p := by
  have hany : fs.files.any (·.1 == place) = true ↔ place ∈ fs.files.map (·.1) := by
    simp [List.any_eq_true]
  unfold putText
  -- Either the text replaces what is there, or it is added at the end.
  split
  · next hfile =>
    rw [file?, find?_map_replace, file?]
    simp only [hany.1 hfile, and_true]
  · next hfile =>
    have hnone : ∀ e ∈ fs.files, e.1 ≠ place := fun e he heq =>
      hfile (hany.2 (heq ▸ List.mem_map_of_mem he))
    rw [file?, file?, List.find?_append]
    by_cases hp : p = place
    · subst hp
      have hfind : fs.files.find? (·.1 == p) = none :=
        List.find?_eq_none.2 fun e he => by simpa using hnone e he
      simp [hfind]
    · cases fs.files.find? (·.1 == p) <;> simp [hp, Ne.symm hp]

/-- Putting a text (`putText`) takes no directory away. -/
private theorem hasDirectory_putText {d : Path} (place : Path) (text : String)
    (h : fs.hasDirectory d = true) : (fs.putText place text).hasDirectory d = true := by
  simp only [hasDirectory, Bool.or_eq_true] at h
  unfold putText
  split
  · -- the paths of the files stay the same
    have hpaths : ∀ e : Path × Content,
        (if e.1 == place then (place, Content.text text) else e).1 = e.1 := by
      intro e
      split
      · next he => exact (beq_iff_eq.1 he).symm
      · rfl
    simpa only [hasDirectory, List.any_map, Function.comp_def, hpaths, Bool.or_eq_true] using h
  · simp only [hasDirectory, List.any_append, Bool.or_eq_true]
    exact h.imp_left fun h => h.imp_right .inl

/-- Putting a text extends (`Extends`) a file system, unless a directory stood in its place. -/
theorem extends_putText {place : Path} (text : String)
    (hplace : fs.mount.isSome = true → fs.hasDirectory place = true → fs.file? place ≠ none) :
    fs.Extends (fs.putText place text) where
  mount := by unfold putText; split <;> rfl
  files p h := by
    rw [file?_putText]
    split
    · rfl
    · exact h
  directories d h := hasDirectory_putText place text h
  vacant hmount d hd hnone := by
    -- A directory without a file in its place is not where the text goes.
    have hne : d ≠ place := by
      rintro rfl
      exact hplace hmount hd hnone
    rw [file?_putText, if_neg hne, hnone]

/-- A text that has been written (`writeText`) stands where its path leads, and nowhere else has
anything changed. -/
theorem place_of_writeText {path text : String} (h : fs.writeText path text = .ok after) :
    fs.Extends after ∧ ∃ place, after.resolve path = .ok place ∧
      after.file? place = some (.text text) ∧
      ∀ other, other ≠ place → after.file? other = fs.file? other := by
  unfold writeText at h
  cases hresolve : fs.resolve path with
  | error e => simp [hresolve] at h
  | ok place =>
    simp only [hresolve] at h
    split at h
    · cases h
    · next hrefused =>
      cases h
      -- The check for a directory in the place of the file is what makes this an extension.
      have hextends : fs.Extends (fs.putText place text) := by
        apply extends_putText
        intro hmount hdirectory hnone
        exact hrefused (by simp [hmount, hdirectory, hnone])
      refine ⟨hextends, place, hextends.resolve hresolve, ?_, ?_⟩
      · rw [file?_putText, if_pos rfl]
      · intro other hne
        rw [file?_putText, if_neg hne]

/-- In memory every text is written (`writeText`) and every directory made. -/
theorem exists_of_mount_none (hmount : fs.mount = none) :
    (∀ path text, ∃ fs', fs.writeText path text = .ok fs' ∧ fs'.mount = none) ∧
      ∀ path, ∃ fs', fs.makeDirectory path = .ok fs' ∧ fs'.mount = none := by
  constructor
  · intro path text
    -- in memory a path leads to itself, and nothing stands in the way
    have hwrite : fs.writeText path text = .ok (fs.putText (Path.ofString path) text) := by
      unfold writeText FileSystem.resolve
      rw [hmount]
      rfl
    exact ⟨_, hwrite, (place_of_writeText hwrite).1.mount.trans hmount⟩
  · intro path
    have hmake : fs.makeDirectory path =
        .ok { fs with directories := fs.directories ++ [Path.ofString path] } := by
      unfold makeDirectory
      split
      · rfl
      · next hsome => cases hmount.symm.trans hsome
    exact ⟨_, hmake, hmount⟩

end Parlance.FileSystem
