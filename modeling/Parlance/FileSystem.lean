import Parlance.Path
import Parlance.Value.Display

/-!
# File systems as values

A file system is a list of files in the order they were made, with the directories that were made
beside those that hold them. There are two sorts. In memory a path is taken as it is written, every
write succeeds, and a directory that is missing lists as empty. A mounted one stands for a disk:
paths are relative to a project directory, `..` goes up, line ends are read as line feeds, and a
file in the place of a directory is refused.
-/

namespace Parlance

/-- What a file holds. -/
inductive Content where
  | text (s : String)
  /-- Bytes that are not UTF-8. -/
  | undecodable
deriving DecidableEq, Repr

/-- Why a file system refuses. -/
inductive FileFault where
  | missing
  | isDirectory
  | notDirectory
  | undecodable
deriving DecidableEq, Repr

namespace FileFault

/-- The wording of a refusal by the system, with the path it is about. -/
def detail (f : FileFault) (path : String) : String :=
  let shown := Value.quoted path
  match f with
  | missing => s!"[Errno 2] No such file or directory: {shown}"
  | isDirectory => s!"[Errno 21] Is a directory: {shown}"
  | notDirectory => s!"[Errno 20] Not a directory: {shown}"
  | undecodable => s!"not UTF-8: {shown}"

end FileFault

/-- Where a mounted file system stands: the project directory as given, and the directory that
relative paths start from. -/
structure Mount where
  project : String
  base : Path
deriving DecidableEq, Repr

/-- Files and directories. -/
structure FileSystem where
  files : List (Path × Content)
  directories : List Path
  mount : Option Mount
deriving Repr

namespace FileSystem

/-- A file system in memory with some files. -/
def ofTexts (files : List (String × String)) : FileSystem :=
  let put (entries : List (Path × Content)) (f : String × String) : List (Path × Content) :=
    let path := Path.ofString f.1
    if entries.any (·.1 == path) then
      entries.map fun e => if e.1 == path then (path, .text f.2) else e
    else entries ++ [(path, .text f.2)]
  ⟨files.foldl put [], [], none⟩

/-- The content of the file at a resolved path. -/
def file? (fs : FileSystem) (path : Path) : Option Content :=
  (fs.files.find? (·.1 == path)).map (·.2)

/-- Whether there is a directory at a resolved path. -/
def hasDirectory (fs : FileSystem) (path : Path) : Bool :=
  path.parts.isEmpty || fs.files.any (·.1.ancestors.contains path) ||
    fs.directories.any fun d => d == path || d.ancestors.contains path

/-- Goes from a directory along some parts; every part but the last must be a directory. -/
def walk (fs : FileSystem) (path : Path) : List String → Except FileFault Path
  | [] => .ok path
  | part :: rest =>
    if (fs.file? path).isSome then .error .notDirectory
    else if !fs.hasDirectory path then .error .missing
    else walk fs (path.enter part) rest

/-- A path as the system sees it. -/
def systemPath (fs : FileSystem) (path : String) : Path :=
  match fs.mount with
  | none => Path.ofString path
  | some m => (Path.ofString m.project).join (Path.ofString path)

/-- A path as refusals mention it. -/
def shownPath (fs : FileSystem) (path : String) : String :=
  match fs.mount with
  | none => path
  | some _ => (fs.systemPath path).toString

/-- The place that a path leads to. -/
def resolve (fs : FileSystem) (path : String) : Except FileFault Path :=
  match fs.mount with
  | none => .ok (Path.ofString path)
  | some m =>
    let whole := m.base.join (fs.systemPath path)
    fs.walk ⟨whole.root, []⟩ whole.parts

/-- Line ends of any sort as line feeds. -/
def unifyLineEnds : List Char → List Char
  | [] => []
  | '\r' :: '\n' :: rest => '\n' :: unifyLineEnds rest
  | c :: rest => (if c = '\r' then '\n' else c) :: unifyLineEnds rest

/-- The text of a file. -/
def readText (fs : FileSystem) (path : String) : Except FileFault String :=
  match fs.resolve path with
  | .error e => .error e
  | .ok place =>
    match fs.file? place with
    | some (.text s) =>
      .ok (if fs.mount.isSome then String.ofList (unifyLineEnds s.toList) else s)
    | some .undecodable => .error .undecodable
    | none => .error (if fs.hasDirectory place then .isDirectory else .missing)

/-- Whether there is a file or a directory at a path. -/
def pathExists (fs : FileSystem) (path : String) : Bool :=
  match fs.resolve path with
  | .error _ => false
  | .ok place => (fs.file? place).isSome || fs.hasDirectory place

/-- The paths of what a directory holds, without repetition. -/
def listDirectory (fs : FileSystem) (path : String) : Except FileFault (List String) :=
  match fs.resolve path with
  | .error e => .error e
  | .ok place =>
    let below := fs.files.map (·.1) ++ (if fs.mount.isSome then fs.directories else [])
    let names := (below.filterMap (Path.stepBelow? place)).eraseDups
    let listed := names.map fun n => Path.joinText path n
    -- in memory every path can be listed
    if fs.mount.isNone then .ok listed
    else if (fs.file? place).isSome then .error .notDirectory
    else if fs.hasDirectory place then .ok listed
    else .error .missing

/-- Gives the file at a resolved place a text. -/
def putText (fs : FileSystem) (place : Path) (text : String) : FileSystem :=
  if fs.files.any (·.1 == place) then
    { fs with files := fs.files.map fun e => if e.1 == place then (place, .text text) else e }
  else { fs with files := fs.files ++ [(place, .text text)] }

/-- Writes a file. -/
def writeText (fs : FileSystem) (path text : String) : Except FileFault FileSystem :=
  match fs.resolve path with
  | .error e => .error e
  | .ok place =>
    if fs.mount.isSome && (fs.file? place).isNone && fs.hasDirectory place then .error .isDirectory
    else .ok (fs.putText place text)

/-- Makes a directory at a resolved path, unless there is one. -/
def withDirectory (fs : FileSystem) (path : Path) : FileSystem :=
  if fs.hasDirectory path then fs else { fs with directories := fs.directories ++ [path] }

/-- Makes a directory, and those that some parts lead to from it one after the other. -/
def makeAlong (fs : FileSystem) (path : Path) : List String → Except FileFault FileSystem
  | [] => if (fs.file? path).isSome then .error .notDirectory else .ok (fs.withDirectory path)
  | part :: rest =>
    if (fs.file? path).isSome then .error .notDirectory
    else makeAlong (fs.withDirectory path) (path.enter part) rest

/-- Makes a directory and those on the way to it. -/
def makeDirectory (fs : FileSystem) (path : String) : Except FileFault FileSystem :=
  match fs.mount with
  | none => .ok { fs with directories := fs.directories ++ [Path.ofString path] }
  | some m =>
    let whole := m.base.join (fs.systemPath path)
    fs.makeAlong ⟨whole.root, []⟩ whole.parts

/-- Removes a file. -/
def remove (fs : FileSystem) (path : String) : FileSystem :=
  let place := Path.ofString path
  { fs with files := fs.files.filter fun e => e.1 != place }

/-- The texts of a file system that another one lacks or has otherwise, in the order of their paths
as texts. -/
def changes (before after : FileSystem) : List (Path × String) :=
  let changed := after.files.filterMap fun f =>
    match f.2 with
    | .text s => if before.file? f.1 == some (.text s) then none else some (f.1, s)
    | .undecodable => none
  changed.mergeSort fun a b => decide (a.1.toString ≤ b.1.toString)

end FileSystem

end Parlance
