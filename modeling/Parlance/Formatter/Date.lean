import Parlance.Calendar.Skeleton
import Parlance.Formatter

/-!
# Dates for a locale

A date is written by a skeleton, for which the language has the pattern, by a pattern of one's own,
or in a form of the language that has a name. `Formatter.dateOrText` and `Formatter.skeletonOrText`
fall back to the date's plain text, with a warning.
-/

namespace Parlance

namespace Formatter

/-- Whether the language counts hours to 24. -/
def countsTo24 (f : Formatter) : Bool := f.conventions.shortTime.toList.contains 'H'

/-- A skeleton with the language's hour in the place of the letter for the preferred one. -/
def withPreferredHour (f : Formatter) (skeleton : String) : String :=
  let hour := if f.countsTo24 then 'H' else 'h'
  String.ofList (skeleton.toList.map fun c => if c = 'j' then hour else c)

/-- A date by a pattern. -/
def dateByPattern (f : Formatter) (t : Timestamp) (pattern : String) : Except DateFault String :=
  DatePattern.render f.conventions f.region t pattern

/-- A date by the language's pattern for a skeleton. -/
def dateBySkeleton (f : Formatter) (t : Timestamp) (skeleton : String) :
    Except DateFault String :=
  match DateSkeleton.pattern? f.conventions.skeletons (f.withPreferredHour skeleton) with
  | some pattern => f.dateByPattern t pattern
  | none => .error (.noPattern skeleton)

/-- The medium date of the language. -/
def mediumDate (f : Formatter) (t : Timestamp) : Except DateFault String :=
  f.dateByPattern t f.conventions.mediumDate

/-- The medium time of the language, for what has a time of day. -/
def mediumTime (f : Formatter) (t : Timestamp) : Except DateFault String :=
  if t.clock.isSome then f.dateByPattern t f.conventions.mediumTime else .error .noTime

/-- A date and its time by a pattern of one's own. The names of the forms of a language stand for
date and time in the form; the long ones have a time zone, which is not supported. -/
def dateByOwnPattern (f : Formatter) (t : Timestamp) (pattern : String) :
    Except DateFault String := do
  let c := f.conventions
  match pattern with
  | "medium" =>
    let date ← f.mediumDate t
    pure (date ++ c.mediumSeparator ++ (← f.dateByPattern t c.mediumTime))
  | "short" =>
    let date ← f.dateByPattern t c.shortDate
    pure (date ++ c.shortSeparator ++ (← f.dateByPattern t c.shortTime))
  -- these two have the name of a zone in them
  | "long" => .error (.unsupported 'z')
  | "full" => .error (.unsupported 'z')
  | _ => f.dateByPattern t pattern

/-- A date by the first part as a pattern, if it is one of one's own; by each part as a skeleton,
with spaces between the results; and in the medium form if there are no parts. -/
def dateByParts (f : Formatter) (t : Timestamp) (parts : List String) (custom : Bool) :
    Except DateFault String :=
  match parts with
  | [] => f.mediumDate t
  | first :: _ =>
    if custom then f.dateByOwnPattern t first
    else (parts.mapM (f.dateBySkeleton t)).map (" ".intercalate ·)

/-- A date by a skeleton, or in the medium form of a time or date. -/
def dateOrTime (f : Formatter) (t : Timestamp) (skeleton : Option String) (time : Bool) :
    Except DateFault String :=
  match skeleton with
  | some s => f.dateBySkeleton t s
  | none => if time then f.mediumTime t else f.mediumDate t

/-- A written date, or the date's plain text with a warning. -/
def orText {ε : Type} (t : Timestamp) : Except DateFault String → Logged ε String
  | .ok text => .pure text
  | .error fault => do
    Logged.log ⟨.warning, .formatting,
      s!"DateTime formatting failed for '{t.text}': {fault.message}"⟩
    pure t.text

/-- A date by its parts for a locale, or its plain text. -/
def dateOrText {ε : Type} (source : LocaleSource) (code : String) (t : Timestamp)
    (parts : List String) (custom : Bool) : Logged ε String := do
  let f ← create source code
  orText t (f.dateByParts t parts custom)

/-- A date by a skeleton for a locale, or its plain text. -/
def skeletonOrText {ε : Type} (source : LocaleSource) (code : String) (t : Timestamp)
    (skeleton : Option String) (time : Bool) : Logged ε String := do
  let f ← create source code
  orText t (f.dateOrTime t skeleton time)

end Formatter

end Parlance
