import Parlance.CommandLine
import Parlance.Json.Reader

/-!
# The program

Reads from the disk what a command line can need, runs it on that, and writes back what changed.
Which directories are read is found in two steps: the configuration tells where the bundles are.
-/

namespace Parlance.Main

/-- What is printed when help is asked for. -/
def usage : String :=
  "usage: arbgen [-h] [--project-dir PROJECT_DIR] [--config FILE]\n" ++
  "              [--untranslated-messages-file FILE]\n" ++
  "              [--diagnostic-format \x7brust,simple,json\x7d] [-v]\n"

/-- A failure that there are no words for. -/
def failureText : Failure → String
  | .fault f => f.text
  | .oversizedNumber digits => Number.oversizedMessage digits
  | .badValue message => message
  | .undecodable => "a file is not UTF-8"
  | .missingFile => "a file is missing"
  | .isDirectory => "a directory stands in the place of a file"
  | .notDirectory => "a file stands in the place of a directory"
  | .notTable => "a setting is not a table"
  | .missingKey => "a setting is missing"
  | .emptyList => "a list is empty"
  | .notText => "a setting is not a text"
  | .overflow => "a number is too great"
  | .tooDeep => "a setting is nested too deeply"

/-- The entry of the disk that a path stands for. -/
def entryAt (path : Path) : IO.FS.DirEntry := ⟨path.toString, "."⟩

/-- Whether there is a directory at a path. -/
def isDirectory (path : Path) : IO Bool := (entryAt path).path.isDir

/-- What a file holds, unless it cannot be read. -/
def contentAt (path : Path) : IO (Option Content) := do
  try
    let bytes ← IO.FS.readBinFile path.toString
    match String.fromUTF8? bytes with
    | some s => pure (some (.text s))
    | none => pure (some .undecodable)
  catch _ => pure none

/-- Adds the file at a path, if there is one. -/
def addFile (fs : FileSystem) (path : Path) : IO FileSystem := do
  if (fs.file? path).isSome then return fs
  match ← contentAt path with
  | some content => pure { fs with files := fs.files ++ [(path, content)] }
  | none => pure fs

/-- Adds a directory. -/
def addDirectory (fs : FileSystem) (path : Path) : FileSystem :=
  if fs.directories.contains path then fs
  else { fs with directories := fs.directories ++ [path] }

/-- A path without `..`. -/
def plain (path : Path) : Path :=
  ⟨path.root, path.parts.foldl (fun acc part =>
    if part = ".." then acc.dropLast else acc ++ [part]) []⟩

/-- Adds what a directory holds, and the directories on the way to it. -/
def survey (fs : FileSystem) (directory : Path) : IO FileSystem := do
  let mut found := fs
  -- the way to the directory, and then what is in it
  for above in directory.ancestors.reverse ++ [directory] do
    if ← isDirectory above then found := addDirectory found (plain above)
    else found ← addFile found (plain above)
  if ← isDirectory directory then
    for entry in ← (entryAt directory).path.readDir do
      let path : Path := (plain directory).join ⟨"", [entry.fileName]⟩
      if ← isDirectory path then found := addDirectory found path
      else found ← addFile found path
  pure found

/-- Adds the directories that some paths are in or are. -/
def surveyAll (fs : FileSystem) (base : Path) (paths : List String) : IO FileSystem :=
  paths.foldlM (fun found path => do
    let whole := base.join (Path.ofString path)
    survey (← survey found whole.parent) whole) fs

/-- The paths of a project that a configuration mentions. -/
def mentioned (i : CommandLine.Invocation) (c : Config) : List String :=
  let bundles := c.bundlesPath "."
  let paths := [bundles, c.outputPath "."] ++ c.headerFile.toList.map (Path.joinText bundles) ++
    c.reportFile.toList ++ i.reportFile.toList
  paths.map (Path.joinText i.project)

/-- The part of the disk that a command line can need. -/
def snapshot (base : Path) (i : CommandLine.Invocation) : IO FileSystem := do
  let settings := i.project :: i.configFile.toList.map (Path.joinText i.project)
  let first ← surveyAll ⟨[], [], none⟩ base settings
  let mounted : FileSystem := { first with mount := some ⟨i.project, base⟩ }
  match (Config.load .standard mounted "." [] i.configFile).result with
  | .ok config => surveyAll first base (mentioned i config)
  | .error _ => pure first

/-- Writes what one file system has and another lacks. -/
def writeBack (before after : FileSystem) : IO Unit := do
  for directory in after.directories do
    unless before.directories.contains directory do
      IO.FS.createDirAll directory.toString
  for (path, text) in before.changes after do
    IO.FS.writeFile path.toString text

/-- How deeply lists and objects in a bundle may be nested. -/
def nestingLimit : Nat := 9997

/-- Runs what a command line asks for, and gives the exit status. -/
def run (base : Path) (i : CommandLine.Invocation) : IO UInt32 := do
  let before ← snapshot base i
  let outcome := CommandLine.perform (Json.decoder nestingLimit) base before i
  writeBack before outcome.files
  for record in outcome.logs do IO.eprintln record.line
  IO.eprint outcome.errors
  match outcome.ending with
  | .status code => pure code.toUInt32
  | .failed failure =>
    IO.eprintln s!"error: {failureText failure}"
    pure 1

end Parlance.Main

open Parlance in
def main (arguments : List String) : IO UInt32 := do
  let base := Path.ofString (← IO.currentDir).toString
  match CommandLine.parse arguments with
  | .run i => Main.run base i
  | .help => IO.print Main.usage; pure 0
  | .invalid => IO.eprint Main.usage; pure 2
