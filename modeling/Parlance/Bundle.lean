import Parlance.Decode
import Parlance.FileSystem
import Parlance.Locale
import Parlance.Text.Blank

/-!
# Bundles

A bundle is the content of one file: the messages of one locale by key, metadata under each key with
`@` in front, and the locale itself under `@@locale`. The locale may also stand in the file name,
and the two must agree.
-/

namespace Parlance

open Parlance.Text

/-- The messages and metadata of a locale. -/
structure Bundle where
  path : String
  locale : Locale
  resources : Assoc Value
deriving Repr, Inhabited

namespace Bundle

/-- The key under which a bundle declares its locale. -/
def localeKey : String := "@@locale"

/-- Whether a key is one of metadata. -/
def isMetadataKey (key : String) : Bool :=
  match key.toList with
  | '@' :: _ => true
  | _ => false

/-- The keys of messages among the resources, in order. -/
def keysOf (resources : Assoc Value) : List String :=
  resources.keys.filter fun k => !isMetadataKey k

/-- The keys of the messages, in order. -/
def keys (b : Bundle) : List String := keysOf b.resources

/-- The name of the file. -/
def filename (b : Bundle) : String := Path.nameOf b.path

/-- The value of a key, absent and `null` alike being `none`; any other value must be a string. -/
def translation (b : Bundle) (key : String) : Except Fault (Option String) :=
  match Value.field? b.resources key with
  | none => .ok none
  | some (.text s) => .ok (some s)
  | some _ => .error (.translationNotText b.path key)

/-- The metadata of a key among the resources, which must be an object if there is any. -/
def metadataIn (path : String) (resources : Assoc Value) (key : String) :
    Except Fault (Option (Assoc Value)) :=
  match Value.field? resources ("@" ++ key) with
  | none => .ok none
  | some (.object entries) => .ok (some entries)
  | some _ => .error (.malformedMetadata path key "")

/-- The metadata of a key. -/
def metadata (b : Bundle) (key : String) : Except Fault (Option (Assoc Value)) :=
  metadataIn b.path b.resources key

/-- Whether a message has the key. -/
def hasKey (b : Bundle) (key : String) : Bool := b.keys.contains key

/-- A bundle as it is mentioned. -/
def describe (b : Bundle) : String := s!"ResourceBundle({b.locale.tag}, {b.path})"

/-- The object in the text of a bundle file; a text of white space is the empty object. -/
def decode (decoder : JsonDecoder) (path content : String) : Except Failure (Assoc Value) :=
  if isBlankText content then .ok []
  else
    match decoder content with
    | .ok (.object entries) => .ok entries
    | .ok v =>
      .error (.fault (.malformedBundle path s!"top-level value is a {v.kindName}, not an object"))
    | .error (.malformed detail) => .error (.fault (.malformedBundle path detail))
    | .error (.oversizedNumber digits) => .error (.oversizedNumber digits)
    | .error .tooDeep => .error .tooDeep

/-- The locale that the resources declare, with underscores. -/
def declaredLocale (path : String) (resources : Assoc Value) : Except Fault (Option String) :=
  match Value.field? resources localeKey with
  | none => .ok none
  | some (.text tag) => .ok (some (Locale.normalize tag))
  | some _ => .error (.localeNotText path)

/-- The locale of a bundle with a declared one and one from the file name. -/
def chooseLocale (path : String) (declared : Option String) (fromFilename : Option Locale) :
    Except Fault Locale :=
  match declared, fromFilename with
  | none, none => .error (.localeUndetermined path)
  | none, some locale => .ok locale
  | some tag, some locale =>
    if tag != locale.tag then .error (.localeMismatch path tag locale.tag)
    else (Locale.parse tag).mapError fun _ => .localeUndetermined path
  | some tag, none => (Locale.parse tag).mapError fun _ => .localeUndetermined path

/-- The bundle of a path and its resources. -/
def ofResources (path : String) (resources : Assoc Value) : Except Fault Bundle :=
  match declaredLocale path resources with
  | .error e => .error e
  | .ok declared =>
    match chooseLocale path declared (Locale.ofFilename? (Path.nameOf path)) with
    | .error e => .error e
    | .ok locale =>
      -- the first key whose metadata is no object
      match (keysOf resources).findSome? fun k =>
          match metadataIn path resources k with
          | .error e => some e
          | .ok _ => none with
      | some e => .error e
      | none => .ok ⟨path, locale, resources⟩

/-- The failure of a file of a bundle to be read. -/
def readFailure (fs : FileSystem) (path : String) : FileFault → Failure
  | .undecodable => .undecodable
  | f => .fault (.bundleUnreadable path (f.detail (fs.shownPath path)))

/-- Reads and checks a bundle file. -/
def load (decoder : JsonDecoder) (fs : FileSystem) (path : String) : Except Failure Bundle :=
  match fs.readText path with
  | .error e => .error (readFailure fs path e)
  | .ok content =>
    match decode decoder path content with
    | .error e => .error e
    | .ok resources => (ofResources path resources).mapError .fault

end Bundle

end Parlance
