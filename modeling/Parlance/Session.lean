import Parlance.Code.Module
import Parlance.Config.Source
import Parlance.Json.Writer

/-!
# Sessions

A session makes the generated module of one project. It loads the bundles when they are first needed
and keeps what it has loaded. `Work` is a session with the file system it works on, and a `Job`
changes both; a job that fails keeps what it had changed until then.
-/

namespace Parlance

/-- What a session has settled so far. -/
structure Session where
  /-- What reads the bundles. -/
  decoder : JsonDecoder
  config : Config
  /-- The directory that relative paths start from. -/
  project : String
  /-- The bundles and the template among them, once they are loaded. -/
  loaded : Option (Collection × Bundle)
  /-- The messages of the template. -/
  entries : List Entry

/-- A session and the file system it works on. -/
structure Work where
  session : Session
  files : FileSystem

/-- A step of a session. -/
abbrev Job (α : Type) := Work → Work × Logged Failure α

/-- What a run has made. -/
structure Summary where
  outputPath : String
  locales : List String
  messageCount : Nat
  untranslated : Assoc (List String)
deriving Repr

namespace Job

variable {α β : Type}

/-- A result without any change. -/
def pure (a : α) : Job α := fun w => (w, .pure a)

/-- A result or failure, with its records, that changes nothing. -/
def ofLogged (x : Work → Logged Failure α) : Job α := fun w => (w, x w)

/-- A result or failure that changes nothing. -/
def ofExcept (x : Work → Except Failure α) : Job α := fun w => (w, .ofExcept (x w))

/-- One job after another, unless the first fails. -/
def bind (x : Job α) (f : α → Job β) : Job β := fun w =>
  match x w with
  | (w, ⟨.error e, logs⟩) => (w, ⟨.error e, logs⟩)
  | (w, ⟨.ok a, logs⟩) =>
    let (w, y) := f a w
    (w, ⟨y.result, logs ++ y.logs⟩)

/-- Another result. -/
def map (f : α → β) (x : Job α) : Job β := x.bind fun a => pure (f a)

end Job

namespace Session

/-- A session that has loaded nothing. -/
def start (decoder : JsonDecoder) (config : Config) (project : String) : Session :=
  ⟨decoder, config, project, none, []⟩

/-! ## Loading -/

/-- The bundles of the configured directory, and the template among them. -/
def findBundles (s : Session) (fs : FileSystem) : Except Failure (Collection × Bundle) :=
  let directory := s.config.bundlesPath s.project
  if !fs.pathExists directory then .error (.fault (.noBundles directory))
  else
    (Collection.ofDirectory s.decoder fs directory).bind fun collection =>
      if collection.bundles.isEmpty then .error (.fault (.noBundles directory))
      else
        match collection.bundles.find? fun b => b.filename == s.config.templateFile with
        | some template => .ok (collection, template)
        | none =>
          .error (.fault (.templateNotFound (s.config.templatePath s.project)
            (collection.bundles.map (·.filename))))

/-- How the entries of a session are built. -/
def entryOptions (c : Config) : EntryOptions :=
  ⟨c.requireAttributes, c.relaxed, { Quoting.off with enabled := c.escaping }, c.suppressWarnings⟩

/-- Loads the bundles and then builds the messages. The bundles stay loaded when a message cannot be
built. -/
def load : Job (Collection × Bundle) := fun w =>
  match w.session.findBundles w.files with
  | .error e => (w, .throw e)
  | .ok (collection, template) =>
    -- the bundles are kept before the entries are built, and so also if that fails
    let session := { w.session with loaded := some (collection, template) }
    let built :=
      Logged.traverse (Entry.build (entryOptions session.config) template collection) template.keys
    match built with
    | ⟨.error e, logs⟩ => ({ w with session := session }, ⟨.error e, logs⟩)
    | ⟨.ok entries, logs⟩ =>
      ({ w with session := { session with entries := entries } },
        ⟨.ok (collection, template), logs⟩)

/-- The bundles and the template, loaded unless they are already. -/
def resources : Job (Collection × Bundle) := fun w =>
  match w.session.loaded with
  | some r => (w, .pure r)
  | none => load w

/-- The messages of the template. -/
def messages : Job (List Entry) :=
  resources.bind fun _ => .ofExcept fun w => .ok w.session.entries

/-- The locale of the template. -/
def templateLocale : Job Locale := resources.map fun r => r.2.locale

/-! ## Locales -/

/-- The preferred locales, each once, in order. -/
def preferred (available : List Locale) : List Locale → List String → Except Fault (List Locale)
  | chosen, [] => .ok chosen
  | chosen, tag :: rest =>
    match Locale.parse tag with
    | .error _ =>
      .error (.invalidConfigValue "preferred-supported-locales" "locale tags" "str")
    | .ok locale =>
      if !available.any locale.same then
        .error (.unknownPreferredLocale locale.tag ((Locale.sort available).map (·.tag)))
      -- a tag that comes twice is taken once
      else if chosen.any locale.same then preferred available chosen rest
      else preferred available (chosen ++ [locale]) rest

/-- The preferred locales and after them all others, those in order. -/
def arrange (available : List Locale) (tags : List String) : Except Fault (List Locale) :=
  (preferred available [] tags).map fun first =>
    first ++ Locale.sort (available.filter fun l => !first.any l.same)

/-- The locales of the generated module. -/
def supportedLocales : Job (List Locale) :=
  resources.bind fun r =>
    .ofExcept fun w => (arrange r.1.locales w.session.config.preferredLocales).mapError .fault

/-! ## Generation -/

/-- The text for the top of the generated module. -/
def header (s : Session) (fs : FileSystem) : Except Failure (Option String) :=
  match s.config.header, s.config.headerFile with
  | some text, _ => .ok (some text)
  | none, none => .ok none
  | none, some file =>
    let path := Path.joinText (s.config.bundlesPath s.project) file
    match fs.readText path with
    | .ok text => .ok (some text)
    | .error .undecodable => .error .undecodable
    | .error f => .error (.fault (.headerUnreadable path (f.detail (fs.shownPath path))))

/-- The switches of the generated module. -/
def moduleOptions (c : Config) (header : Option String) (template : Bundle) :
    Code.ModuleOptions :=
  ⟨c.outputClass, c.namedParameters, c.nullableGetter, c.formats, header, c.suppressWarnings,
    template.filename⟩

/-- The text of the generated module. -/
def generate : Job String :=
  resources.bind fun r =>
  (Job.ofExcept fun w => w.session.header w.files).bind fun header =>
  messages.bind fun entries =>
  supportedLocales.bind fun locales =>
  .ofExcept fun w =>
    ((Code.Plan.make entries locales r.2.locale
      (moduleOptions w.session.config header r.2)).mapError .fault).bind Code.emit

/-! ## Report -/

/-- The keys of the messages that a locale lacks. -/
def missingKeys (entries : List Entry) (locale : Locale) : List String :=
  (entries.filter fun e => !e.isTranslated locale).map (·.key)

/-- The keys that each locale but the template's lacks, locales that lack none left out. -/
def untranslatedIn (entries : List Entry) (template : Locale) (locales : List Locale) :
    Assoc (List String) :=
  ((locales.filter fun l => !l.same template).map fun l => (l.tag, missingKeys entries l)).filter
    fun p => !p.2.isEmpty

/-- The keys of the messages that are missing in each locale. -/
def untranslated : Job (Assoc (List String)) :=
  templateLocale.bind fun template =>
  supportedLocales.bind fun locales =>
  messages.map fun entries => untranslatedIn entries template locales

/-- The report of missing messages. -/
def reportText (report : Assoc (List String)) : String :=
  Json.indented 2 (.object (report.map fun p => (p.1, .list (p.2.map .text)))) ++ "\n"

/-- The record about the missing messages of a locale. -/
def untranslatedRecord (p : String × List String) : LogRecord :=
  ⟨.warning, .generator, s!"{p.2.length} untranslated message(s) in locale {p.1}"⟩

/-! ## Runs -/

/-- The failure of a file system to write. -/
def writeFailure : FileFault → Failure
  | .missing => .missingFile
  | .isDirectory => .isDirectory
  | .notDirectory => .notDirectory
  | .undecodable => .undecodable

/-- Writes a file, and makes its directory first if there is none. -/
def write (path text : String) : Job Unit := fun w =>
  let parent := (Path.ofString path).parent.toString
  -- a file in the place of the directory is left for the write to refuse
  let made := if w.files.pathExists parent then .ok w.files else w.files.makeDirectory parent
  match made with
  | .error e => (w, .throw (writeFailure e))
  | .ok fs =>
    match fs.writeText path text with
    | .error e => ({ w with files := fs }, .throw (writeFailure e))
    | .ok fs => ({ w with files := fs }, .pure ())

/-- The path of the report, if there is to be one: what is passed in, unless it is empty, comes
before the configuration. -/
def reportPath? (s : Session) (file : Option String) : Option String :=
  ((file.filter fun f => !f.isEmpty).or s.config.reportFile).map (Path.joinText s.project)

/-- Writes the report of missing messages, if there is to be one. -/
def writeReport (file : Option String) (report : Assoc (List String)) : Job Unit := fun w =>
  match w.session.reportPath? file with
  | none => (w, .pure ())
  | some path => write path (reportText report) w

/-- Generates and writes the module, and then the report of missing messages. -/
def run (file : Option String) : Job Summary :=
  generate.bind fun source =>
  (Job.ofExcept fun w => .ok (w.session.config.outputPath w.session.project)).bind fun path =>
  (write path source).bind fun _ =>
  untranslated.bind fun report =>
  (Job.ofLogged fun w =>
    ⟨.ok (), if w.session.config.suppressWarnings then [] else report.map untranslatedRecord⟩).bind
    fun _ =>
  (writeReport file report).bind fun _ =>
  supportedLocales.bind fun locales =>
  messages.map fun entries => ⟨path, locales.map (·.tag), entries.length, report⟩

end Session

end Parlance
