import Parlance.Fault
import Parlance.Log
import Parlance.Path
import Parlance.Value

/-!
# Configuration

All settings of a run, and how they are read from named options. An option that is absent or `null`
keeps its default, one that is not known is reported and left out, and a value of the wrong type is
a failure.
-/

namespace Parlance

/-- The settings of a run. -/
structure Config where
  /-- The directory of the bundles, relative to the project. -/
  bundleDirectory : String
  /-- The file name of the template in that directory. -/
  templateFile : String
  /-- The path of the generated module, relative to the project. -/
  outputFile : String
  /-- The name of the base class of the generated module. -/
  outputClass : String
  /-- The locales that come first, in this order. -/
  preferredLocales : List String
  /-- A text to stand at the top of the generated module. -/
  header : Option String
  /-- A file, relative to the directory of the bundles, that holds that text. -/
  headerFile : Option String
  /-- Has no effect. -/
  deferredLoading : Bool
  /-- A reference to a name that is not declared is literal text. -/
  relaxed : Bool
  /-- Has no effect. -/
  syntheticPackage : Bool
  /-- Apostrophes quote in messages. -/
  escaping : Bool
  /-- Nothing is reported that the run recovers from. -/
  suppressWarnings : Bool
  /-- Parameters of the generated accessors are passed by keyword only. -/
  namedParameters : Bool
  /-- Looking up a locale that is not supported gives nothing. -/
  nullableGetter : Bool
  /-- Dates and numbers are formatted. -/
  formats : Bool
  /-- Every message of the template needs metadata. -/
  requireAttributes : Bool
  /-- The path of the report of untranslated messages, relative to the project. -/
  reportFile : Option String
deriving DecidableEq, Repr

namespace Config

/-- The settings unless said otherwise. -/
def standard : Config :=
  ⟨"l10n", "app_en.arb", "app_localizations.py", "AppLocalizations", [], none, none, false, false,
    true, false, false, false, true, true, false, none⟩

/-! ## Options -/

/-- How the value of an option becomes a setting. -/
inductive Setter where
  | text (set : Config → String → Config)
  | flag (set : Config → Bool → Config)
  | texts (set : Config → List String → Config)

/-- The options by name. -/
def options : List (String × Setter) :=
  [("arb-dir", .text fun c s => { c with bundleDirectory := s }),
   ("template-arb-file", .text fun c s => { c with templateFile := s }),
   ("output-localization-file", .text fun c s => { c with outputFile := s }),
   ("output-class", .text fun c s => { c with outputClass := s }),
   ("preferred-supported-locales", .texts fun c ss => { c with preferredLocales := ss }),
   ("header", .text fun c s => { c with header := some s }),
   ("header-file", .text fun c s => { c with headerFile := some s }),
   ("use-deferred-loading", .flag fun c b => { c with deferredLoading := b }),
   ("use-relaxed-syntax", .flag fun c b => { c with relaxed := b }),
   ("synthetic-package", .flag fun c b => { c with syntheticPackage := b }),
   ("use-escaping", .flag fun c b => { c with escaping := b }),
   ("suppress-warnings", .flag fun c b => { c with suppressWarnings := b }),
   ("use-named-parameters", .flag fun c b => { c with namedParameters := b }),
   ("nullable-getter", .flag fun c b => { c with nullableGetter := b }),
   ("format", .flag fun c b => { c with formats := b }),
   ("required-resource-attributes", .flag fun c b => { c with requireAttributes := b }),
   ("untranslated-messages-file", .text fun c s => { c with reportFile := some s })]

/-- The option of a name. -/
def option? (name : String) : Option Setter := (options.find? (·.1 == name)).map (·.2)

/-- The strings of an option that takes several; one string stands for a list of it. -/
def textsOf? : Value → Option (List String)
  | .text s => some [s]
  | v => v.texts?

/-- The settings with an option given a value. -/
def assign (c : Config) (name : String) (setter : Setter) (value : Value) : Except Fault Config :=
  let refuse (expected : String) : Except Fault Config :=
    .error (.invalidConfigValue name expected value.kindName)
  match setter with
  | .text set =>
    match value with
    | .text s => .ok (set c s)
    | _ => refuse "a string"
  | .flag set =>
    match value with
    | .bool b => .ok (set c b)
    | _ => refuse "a boolean"
  | .texts set =>
    match textsOf? value with
    | some ss => .ok (set c ss)
    | none => refuse "a list of strings"

/-- The report of an option that is not known. -/
def unknownOption (name source : String) : LogRecord :=
  ⟨.warning, .config, s!"Unknown configuration option '{name}' in {source}"⟩

/-- The settings after one option of a source. -/
def applyOption (source : String) (c : Config) (name : String) (value : Value) :
    Logged Fault Config :=
  match option? name with
  | none => ⟨.ok c, [unknownOption name source]⟩
  | some setter => if value.isNull then .pure c else .ofExcept (c.assign name setter value)

/-- The settings after the options of a source, in order. -/
def applyAll (source : String) (c : Config) : Assoc Value → Logged Fault Config
  | [] => .pure c
  | (name, value) :: rest =>
    (applyOption source c name value).bind fun c => applyAll source c rest

/-- The settings that a source gives. -/
def ofOptions (source : String) (entries : Assoc Value) : Logged Fault Config :=
  applyAll source standard entries

/-! ## Paths -/

/-- The directory of the bundles. -/
def bundlesPath (c : Config) (project : String) : String := Path.joinText project c.bundleDirectory

/-- The path of the template. -/
def templatePath (c : Config) (project : String) : String :=
  Path.joinText (c.bundlesPath project) c.templateFile

/-- The path of the generated module. -/
def outputPath (c : Config) (project : String) : String := Path.joinText project c.outputFile

end Config

end Parlance
