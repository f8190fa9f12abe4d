import Parlance.Config
import Parlance.FileSystem
import Parlance.Toml.Document
import Parlance.Yaml.Composition

/-!
# Sources of the configuration

Options that are passed in come first, then a configuration file, then the defaults. The first
source that there is decides alone. A file that cannot be read or decoded, or that holds no table of
options, is reported and passed over.
-/

namespace Parlance

namespace Config

/-- The readers of the two formats of configuration files. -/
structure Decoders where
  yaml : Decoder
  toml : Decoder

namespace Decoders

/-- YAML and TOML. -/
def standard : Decoders := ⟨Yaml.read, Toml.read⟩

end Decoders

/-- The configuration file of a project. -/
def yamlFile : String := "l10n.yaml"

/-- The file of a project in which a table may hold the configuration. -/
def projectFile : String := "pyproject.toml"

/-- The name of the tables that lead to the configuration in that file. -/
def tablePath : String × String := ("tool", "arbgen")

/-- The report of a configuration file that is passed over. -/
def unreadable (path detail : String) : LogRecord :=
  let d : Diagnostic :=
    ⟨.configUnreadable, s!"Error parsing {path}: {detail}", some (.inFile path), none, .warning⟩
  ⟨.warning, .config, d.errorText⟩

/-- The value at the configuration's place in the file of a project. -/
def tableOf (document : Value) : Except Failure Value :=
  match document with
  | .object entries =>
    match Assoc.get? entries tablePath.1 with
    | none => .ok .null
    | some (.object tools) => .ok ((Assoc.get? tools tablePath.2).getD .null)
    | some _ => .error .notTable
  | _ => .error .notTable

/-- Whether a path ends in `.toml`. -/
def isToml (path : String) : Bool := ".toml".toList.isSuffixOf path.toList

/-- The value that the text of a configuration file holds. -/
def decode (decoders : Decoders) (path text : String) : Except DecodeFault Value :=
  if isToml path then
    (decoders.toml text).bind fun document =>
      if Path.nameOf path == projectFile then (tableOf document).mapError .noSuchValue
      else .ok document
  else decoders.yaml text

/-- The options in a file, or none if there is no such file or it is passed over. -/
def optionsIn (decoders : Decoders) (fs : FileSystem) (path : String) :
    Logged Failure (Option (Assoc Value)) :=
  let passOver (detail : String) : Logged Failure (Option (Assoc Value)) :=
    ⟨.ok none, [unreadable path detail]⟩
  if !fs.pathExists path then .pure none
  else
    match fs.readText path with
    | .error f => passOver (f.detail (fs.shownPath path))
    | .ok text =>
      match decode decoders path text with
      | .error (.malformed detail) => passOver detail
      | .error (.noSuchValue failure) => .throw failure
      -- an empty document has no options, but is no mistake
      | .ok .null => .pure none
      | .ok (.object entries) => .pure (some entries)
      | .ok _ => passOver "expected a mapping"

/-- The settings of the first of some files that holds options, or the defaults. -/
def ofFiles (decoders : Decoders) (fs : FileSystem) : List String → Logged Failure Config
  | [] => .pure standard
  | path :: rest =>
    (optionsIn decoders fs path).bind fun entries =>
      match entries with
      | some entries => (ofOptions path entries).mapError .fault
      | none => ofFiles decoders fs rest

/-- The files that may hold the configuration: the one that is named, or those of the project. -/
def candidates (project : String) (file : Option String) : List String :=
  match file.filter fun f => !f.isEmpty with
  | some f => [f]
  | none => [Path.joinText project yamlFile, Path.joinText project projectFile]

/-- The settings of a run. -/
def load (decoders : Decoders) (fs : FileSystem) (project : String) (options : Assoc Value)
    (file : Option String) : Logged Failure Config :=
  if options.isEmpty then ofFiles decoders fs (candidates project file)
  else (ofOptions "options" options).mapError .fault

end Config

end Parlance
