import Parlance.Locale

/-!
# Locale codes

The code under which a generated module asks for plural categories and formats: a language, then an
optional script of four letters, then an optional region of two letters or three digits. Unlike the
tag of a bundle, a code has a spelling in which case does not matter.
-/

namespace Parlance

open Parlance.Text

/-- The parts of a locale code in their usual case. -/
structure LocaleCode where
  language : String
  script : Option String
  region : Option String
deriving DecidableEq, Repr, Inhabited

namespace LocaleCode

/-- Whether a part of a code is a script. -/
def isScript (part : String) : Bool := part.length == 4 && part.toList.all Char.isAlpha

/-- Whether a part of a code is a region. -/
def isRegion (part : String) : Bool :=
  (part.length == 2 && part.toList.all Char.isAlpha) ||
    (part.length == 3 && part.toList.all Char.isDigit)

/-- The code that some parts form, if they are in order and nothing is left over. -/
def ofParts? : List String → Option LocaleCode
  | [language] => some ⟨lower language, none, none⟩
  | [language, second] =>
    if isScript second then some ⟨lower language, some (Locale.capitalize second), none⟩
    else if isRegion second then some ⟨lower language, none, some (upper second)⟩
    else none
  | [language, script, region] =>
    if isScript script && isRegion region then
      some ⟨lower language, some (Locale.capitalize script), some (upper region)⟩
    else none
  | _ => none

/-- Reads a code, in which hyphens and underscores are alike. -/
def ofText? (s : String) : Option LocaleCode := ofParts? (cutAt '_' (Locale.normalize s))

/-- A code with underscores between its parts. -/
def tag (c : LocaleCode) : String :=
  "_".intercalate (c.language :: c.script.toList ++ c.region.toList)

end LocaleCode

end Parlance
