import Parlance.Text.Case
import Parlance.Text.Pieces

/-!
# Locales

A locale is a language with an optional script and an optional region, written as a tag of one to
three parts. Hyphens and underscores separate parts alike, and a tag is kept with underscores. Two
locales are the same when their tags are.
-/

namespace Parlance

open Parlance.Text

/-- A locale, with the tag it was read from. -/
structure Locale where
  language : String
  script : Option String
  region : Option String
  tag : String
deriving DecidableEq, Repr, Inhabited

/-- Why there is no such locale. -/
inductive LocaleFault where
  | invalid (tag : String)
  | emptyLanguage
deriving DecidableEq, Repr

namespace LocaleFault

/-- The wording of a fault. -/
def message : LocaleFault → String
  | invalid tag => s!"Invalid locale: '{tag}'"
  | emptyLanguage => "LocaleIdentifier.language must not be empty"

end LocaleFault

/-- The codes of ISO 639 that a file name may end in: the two-letter ones, and the three-letter ones
that occur in the names of locales. They keep `my_file_name.arb` from being taken for the bundle of
a language called `file`. -/
def languageCodes : List String :=
  ["aa", "ab", "ae", "af", "ak", "am", "an", "ar", "as", "av", "ay", "az", "ba", "be", "bg",
   "bh", "bi", "bm", "bn", "bo", "br", "bs", "ca", "ce", "ch", "co", "cr", "cs", "cu", "cv",
   "cy", "da", "de", "dv", "dz", "ee", "el", "en", "eo", "es", "et", "eu", "fa", "ff", "fi",
   "fil", "fj", "fo", "fr", "fy", "ga", "gd", "gl", "gn", "gsw", "gu", "gv", "ha", "he", "hi",
   "ho", "hr", "ht", "hu", "hy", "hz", "ia", "id", "ie", "ig", "ii", "ik", "io", "is", "it",
   "iu", "ja", "jv", "ka", "kg", "ki", "kj", "kk", "kl", "km", "kn", "ko", "kr", "ks", "ku",
   "kv", "kw", "ky", "la", "lb", "lg", "li", "ln", "lo", "lt", "lu", "lv", "mg", "mh", "mi",
   "mk", "ml", "mn", "mr", "ms", "mt", "my", "na", "nb", "nd", "ne", "ng", "nl", "nn", "no",
   "nr", "nv", "ny", "oc", "oj", "om", "or", "os", "pa", "pi", "pl", "ps", "pt", "qu", "rm",
   "rn", "ro", "ru", "rw", "sa", "sc", "sd", "se", "sg", "si", "sk", "sl", "sm", "sn", "so",
   "sq", "sr", "ss", "st", "su", "sv", "sw", "ta", "te", "tg", "th", "ti", "tk", "tl", "tn",
   "to", "tr", "ts", "tt", "tw", "ty", "ug", "uk", "ur", "uz", "ve", "vi", "vo", "wa", "wo",
   "xh", "yi", "yo", "za", "zh", "zu"]

namespace Locale

/-- A tag with underscores in the place of hyphens. -/
def normalizeChars (tag : List Char) : List Char := tag.map fun c => if c = '-' then '_' else c

/-- A tag with underscores in the place of hyphens. -/
def normalize (tag : String) : String := String.ofList (normalizeChars tag.toList)

/-- A locale of given parts; an empty tag is put together from them. -/
def ofParts (language : String) (script region : Option String) (tag : String) :
    Except LocaleFault Locale :=
  if language.isEmpty then .error .emptyLanguage
  else
    let parts := (language :: script.toList ++ region.toList).filter (!·.isEmpty)
    .ok ⟨language, script, region, if tag.isEmpty then "_".intercalate parts else tag⟩

/-- The locale whose tag has the given parts. Of two, the second is a script when it has four
characters or more; of three, the longer of the last two is the script, and the last one if they
are of equal length. -/
def ofSubtags? (subtags : List String) (tag : String) : Option Locale :=
  if subtags.any String.isEmpty then none
  else match subtags with
    | [language] => some ⟨language, none, none, tag⟩
    | [language, second] =>
      -- a script has four letters at least
      if 4 ≤ second.length then some ⟨language, some second, none, tag⟩
      else some ⟨language, none, some second, tag⟩
    | [language, second, third] =>
      -- the longer one is the script
      if third.length < second.length then some ⟨language, some second, some third, tag⟩
      else some ⟨language, some third, some second, tag⟩
    | _ => none

/-- The locale of a tag. -/
def parse (tag : String) : Except LocaleFault Locale :=
  let normal := normalize tag
  match ofSubtags? (cutAt '_' normal) normal with
  | some locale => .ok locale
  | none => .error (.invalid tag)

/-- Whether two locales have one tag. -/
def same (a b : Locale) : Bool := a.tag == b.tag

/-- Whether a locale is one for a region or a script. -/
def hasVariant (l : Locale) : Bool := l.script.isSome || l.region.isSome

/-- The tag of the locale of the language alone. -/
def languageTag (l : Locale) : String := l.language

/-- A part of a tag with its first character in upper case and all others in lower case. -/
def capitalize (part : String) : String :=
  match part.toList with
  | [] => ""
  | c :: rest => String.ofList (upperChar c ++ lowerChars rest)

/-- The parts of the tag, each capitalized, without separators. -/
def camelCase (l : Locale) : String := String.join ((cutAt '_' l.tag).map capitalize)

/-- Whether the language is one of the codes that file names end in. -/
def hasKnownLanguage (l : Locale) : Bool := languageCodes.contains l.language

/-- A text up to its last dot, and all of it if it has none. -/
def beforeLastDot (s : List Char) : List Char :=
  if s.contains '.' then ((s.reverse.dropWhile (· != '.')).drop 1).reverse else s

/-- The locale that some text after an underscore names: the first rest of the name, without its
extension, that is the tag of a locale of a known language. -/
def ofSuffix? : List Char → Option Locale
  | [] => none
  | c :: rest =>
    if c = '_' then
      match parse (String.ofList (beforeLastDot rest)) with
      | .ok locale => if locale.hasKnownLanguage then some locale else ofSuffix? rest
      | .error _ => ofSuffix? rest
    else ofSuffix? rest

/-- The locale that a file name ends in. -/
def ofFilename? (name : String) : Option Locale := ofSuffix? name.toList

/-- Locales in the order of their tags. -/
def sort (locales : List Locale) : List Locale :=
  locales.mergeSort fun a b => decide (a.tag ≤ b.tag)

/-- Locales with every repetition left out. -/
def distinct : List Locale → List Locale
  | [] => []
  | l :: rest => l :: (distinct rest).filter fun r => !r.same l

end Locale

end Parlance
