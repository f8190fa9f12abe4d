import Parlance.Collection
import Parlance.Log
import Parlance.Placeholder.Inference

/-!
# Entries of a catalogue

An entry gathers a message of the template with all its renditions: in every locale the text, the
message parsed from it, and the placeholders that the locale declares anew. A rendition that is no
message counts as missing; only in the template is that a failure.
-/

namespace Parlance

/-- A message of the template in one locale. -/
structure Rendition where
  locale : Locale
  filename : String
  translation : Option String
  message : Option Message
  overrides : List Resolved
deriving DecidableEq, Repr

/-- A message of the template in all locales. -/
structure Entry where
  key : String
  reference : String
  description : Option String
  context : Option String
  renditions : List Rendition
  placeholders : List Resolved
  hadErrors : Bool
deriving DecidableEq, Repr

/-- How entries are built. -/
structure EntryOptions where
  /-- Every message of the template needs metadata. -/
  requireAttributes : Bool
  /-- A reference to a name that is not declared is literal text. -/
  relaxed : Bool
  quoting : Quoting
  /-- A rendition that is no message is not reported. -/
  suppressWarnings : Bool
deriving Repr

namespace EntryOptions

/-- Nothing is required, relaxed, quoted or suppressed. -/
def standard : EntryOptions := ⟨false, false, Quoting.off, false⟩

end EntryOptions

namespace Entry

/-- What the metadata of the template says about a message. -/
structure Notes where
  description : Option String
  context : Option String
  declared : List Declared

/-- A text in the metadata of a message. -/
def noteText (path key name : String) (metadata : Option (Assoc Value)) :
    Except Fault (Option String) :=
  match metadata with
  | none => .ok none
  | some entries =>
    match Value.field? entries name with
    | none => .ok none
    | some (.text s) => .ok (some s)
    | some _ => .error (.malformedMetadata path key name)

/-- The text that the template has for a key. -/
def referenceOf (template : Bundle) (key : String) : Except Fault String :=
  (template.translation key).bind fun value =>
    match value with
    | some s => .ok s
    | none => .error (.missingResource template.path key)

/-- What the template says about a key. -/
def notesOf (template : Bundle) (key : String) (required : Bool) : Except Fault Notes :=
  (template.metadata key).bind fun metadata =>
    if metadata.isNone && required then .error (.missingAttribute template.path key)
    else
      (noteText template.path key "description" metadata).bind fun description =>
      (noteText template.path key "context" metadata).bind fun context =>
      (Declared.ofMetadata template.path key metadata).map fun declared =>
        ⟨description, context, declared⟩

/-- The placeholders that a bundle other than the template declares anew. -/
def redeclared (bundle : Bundle) (key : String) : Except Fault (List Declared) :=
  (bundle.metadata key).bind fun metadata => Declared.ofMetadata bundle.path key metadata

/-- What is made of the text of a rendition. -/
structure Reading where
  message : Option Message
  /-- Whether there is a text, and it was refused as a message. -/
  failed : Bool

/-- A rendition before its placeholders are resolved, with those that its bundle declares. -/
structure Draft where
  rendition : Rendition
  declared : List Declared
  /-- Whether the text of the rendition was refused as a message. -/
  failed : Bool

/-- The report of a rendition that is no message. -/
def recovered (f : Fault) (key : String) (locale : Locale) : LogRecord :=
  ⟨.warning, .message, s!"{f.text}\nTreating {key} as untranslated for {locale.tag}"⟩

/-- The report of a message of the template that is none. -/
def templateRefused (key filename : String) : LogRecord :=
  ⟨.error, .message, s!"Template message {key} in {filename} failed to parse"⟩

/-- How the texts of an entry are read. -/
def readingOptions (options : EntryOptions) (notes : Notes) : ReadingOptions :=
  ⟨options.quoting, if options.relaxed then some (notes.declared.map (·.name)) else none,
    ReadingOptions.defaultLimit⟩

/-- The message of a rendition. A text that is none is a failure in the template, and elsewhere it
is reported and the rendition has no message. -/
def messageOf (options : EntryOptions) (notes : Notes) (key : String) (bundle : Bundle)
    (isTemplate : Bool) : Option String → Logged Failure Reading
  | none => Logged.pure ⟨none, false⟩
  | some text =>
    match Message.parse (readingOptions options notes) text with
    | .ok m => Logged.pure ⟨some m, false⟩
    -- this failure is no refusal, and nothing recovers from it
    | .error (.oversizedNumber digits) => Logged.throw (.oversizedNumber digits)
    | .error (.fault f) =>
      let fault := Fault.message ⟨bundle.filename, key, text⟩ f
      if isTemplate then ⟨.error (.fault fault), [templateRefused key bundle.filename]⟩
      else if options.suppressWarnings then Logged.pure ⟨none, true⟩
      else ⟨.ok ⟨none, true⟩, [recovered fault key bundle.locale]⟩

/-- The rendition of a key in a bundle. -/
def draft (options : EntryOptions) (template : Bundle) (reference : String) (notes : Notes)
    (key : String) (bundle : Bundle) : Logged Failure Draft :=
  let isTemplate := bundle.locale.same template.locale
  let translation :=
    if isTemplate then .ok (some reference) else (bundle.translation key).mapError Failure.fault
  (Logged.ofExcept translation).bind fun translation =>
  -- the template declares placeholders; only the other bundles declare them anew
  let declared := if isTemplate then .ok [] else (redeclared bundle key).mapError Failure.fault
  (Logged.ofExcept declared).bind fun declared =>
  (messageOf options notes key bundle isTemplate translation).bind fun reading =>
    Logged.pure ⟨⟨bundle.locale, bundle.filename, translation, reading.message, []⟩, declared,
      reading.failed⟩

/-- The entry of some drafts. -/
def ofDrafts (key reference : String) (notes : Notes) (drafts : List Draft) :
    Except Fault Entry :=
  let redeclared := drafts.filterMap fun d =>
    if d.declared.isEmpty then none else some (d.rendition.locale, d.declared)
  -- a rendition without a message declares all the same
  let messages := drafts.filterMap fun d => d.rendition.message
  (inferPlaceholders key notes.declared redeclared messages).map fun inferred =>
    let overridesOf (locale : Locale) : List Resolved :=
      match inferred.overrides.find? fun o => o.1.same locale with
      | some o => o.2
      | none => []
    let renditions := drafts.map fun d =>
      { d.rendition with overrides := overridesOf d.rendition.locale }
    ⟨key, reference, notes.description, notes.context, renditions, inferred.template,
      drafts.any (·.failed)⟩

/-- The entry of a key of the template. -/
def build (options : EntryOptions) (template : Bundle) (collection : Collection) (key : String) :
    Logged Failure Entry :=
  (Logged.ofExcept ((referenceOf template key).mapError .fault)).bind fun reference =>
  (Logged.ofExcept ((notesOf template key options.requireAttributes).mapError .fault)).bind
    fun notes =>
  (Logged.traverse (draft options template reference notes key) collection.bundles).bind
    fun drafts =>
  Logged.ofExcept ((ofDrafts key reference notes drafts).mapError .fault)

/-- The rendition in a locale. -/
def renditionFor? (e : Entry) (locale : Locale) : Option Rendition :=
  e.renditions.find? fun r => r.locale.same locale

/-- The message in a locale. -/
def messageFor? (e : Entry) (locale : Locale) : Option Message :=
  (e.renditionFor? locale).bind (·.message)

/-- Whether a locale has a message. -/
def isTranslated (e : Entry) (locale : Locale) : Bool := (e.messageFor? locale).isSome

/-- The placeholders as a locale formats them, in the order of the template. -/
def placeholdersFor (e : Entry) (locale : Locale) : List Resolved :=
  let overrides := match e.renditionFor? locale with
    | some r => r.overrides
    | none => []
  e.placeholders.map fun p => (overrides.find? (·.name == p.name)).getD p

end Entry

end Parlance
