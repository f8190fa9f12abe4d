import Parlance.Bundle
import Parlance.Text.Word

/-!
# Collections of bundles

The bundles of a directory, in the order of their paths. No two of them have one locale, and a
language that has a bundle for a region or a script also has one for itself.
-/

namespace Parlance

open Parlance.Text

/-- Bundles of distinct locales. -/
structure Collection where
  directory : String
  bundles : List Bundle
deriving Repr

namespace Collection

/-- Whether a name is that of a bundle file: a word character and `.arb`, with at most one line
feed after it. -/
def isBundleName (name : String) : Bool :=
  let reversed := match name.toList.reverse with
    | '\n' :: rest => rest
    | all => all
  match reversed with
  | 'b' :: 'r' :: 'a' :: '.' :: c :: _ => isWordChar c
  | _ => false

/-- The first bundle whose locale came before, with the bundle that it came with. -/
def firstDuplicate? : List Bundle → List Bundle → Option (Bundle × Bundle)
  | _, [] => none
  | seen, b :: rest =>
    match seen.find? fun s => s.locale.same b.locale with
    | some s => some (s, b)
    | none => firstDuplicate? (seen ++ [b]) rest

/-- The locales for a region or script, of one language. -/
def variantsOf (bundles : List Bundle) (language : String) : List Locale :=
  (bundles.map (·.locale)).filter fun l => l.hasVariant && l.language == language

/-- The first language with a variant and no bundle of its own. -/
def firstWithoutFallback? (bundles : List Bundle) : Option String :=
  (bundles.filter (·.locale.hasVariant)).findSome? fun b =>
    if bundles.any (·.locale.tag == b.locale.languageTag) then none else some b.locale.language

/-- The collection of some bundles. -/
def ofBundles (directory : String) (bundles : List Bundle) : Except Fault Collection :=
  match firstDuplicate? [] bundles with
  | some (first, second) =>
    .error (.duplicateLocale second.locale.tag [first.path, second.path])
  | none =>
    match firstWithoutFallback? bundles with
    | some language =>
      .error (.missingFallback language ((variantsOf bundles language).map (·.tag)))
    | none => .ok ⟨directory, bundles⟩

/-- The failure of a directory to be listed. -/
def listFailure : FileFault → Failure
  | .missing => .missingFile
  | .isDirectory => .isDirectory
  | .notDirectory => .notDirectory
  | .undecodable => .undecodable

/-- The paths of the bundle files of a directory, in order. -/
def bundlePaths (fs : FileSystem) (directory : String) : Except Failure (List String) :=
  match fs.listDirectory directory with
  | .error e => .error (listFailure e)
  | .ok paths =>
    .ok ((paths.filter fun p => isBundleName (Path.nameOf p)).mergeSort fun a b => decide (a ≤ b))

/-- The collection of all bundle files of a directory. -/
def ofDirectory (decoder : JsonDecoder) (fs : FileSystem) (directory : String) :
    Except Failure Collection :=
  match bundlePaths fs directory with
  | .error e => .error e
  | .ok paths =>
    match paths.mapM (Bundle.load decoder fs) with
    | .error e => .error e
    | .ok bundles => (ofBundles directory bundles).mapError .fault

/-- The locales in order. -/
def locales (c : Collection) : List Locale := c.bundles.map (·.locale)

/-- The distinct languages in the order in which they come first. -/
def languages (c : Collection) : List String := (c.locales.map (·.language)).eraseDups

/-- The bundle of a locale. -/
def bundleFor? (c : Collection) (locale : Locale) : Option Bundle :=
  c.bundles.find? fun b => b.locale.same locale

/-- The locales of a language. -/
def localesOf (c : Collection) (language : String) : List Locale :=
  c.locales.filter fun l => l.language == language

/-- A collection as it is mentioned. -/
def describe (c : Collection) : String :=
  s!"ResourceBundleCollection({c.directory}, {c.bundles.length} locales)"

end Collection

end Parlance
