import Parlance.Diagnostic
import Parlance.Json.Writer

/-!
# Diagnostics as text

Three layouts: several lines with the place marked by a caret, one line, and JSON. `renderCaret`
shows the line of a text that holds an offset, and below it a caret in the column of the offset.
-/

namespace Parlance

/-- The layouts of diagnostics. -/
inductive DiagnosticFormat where
  | full
  | simple
  | json
deriving DecidableEq, Repr

namespace DiagnosticFormat

/-- The name of a layout. -/
def name : DiagnosticFormat → String
  | full => "rust"
  | simple => "simple"
  | json => "json"

/-- The layout of a name. -/
def ofName? (s : String) : Option DiagnosticFormat := [full, simple, json].find? (·.name == s)

end DiagnosticFormat

/-- The part of a text on the line of an offset that comes before the offset. -/
def lineBefore (text : List Char) (index : Nat) : List Char :=
  ((text.take index).reverse.takeWhile (· != '\n')).reverse

/-- The part of a text on the line of an offset that starts with the offset. -/
def lineAfter (text : List Char) (index : Nat) : List Char :=
  (text.drop index).takeWhile (· != '\n')

/-- The line of a text that holds an offset, and a caret under the offset. -/
def renderCaret (text : String) (index : Nat) (indent : String) : String :=
  let before := lineBefore text.toList index
  let line := String.ofList (before ++ lineAfter text.toList index)
  let gap := String.ofList (List.replicate before.length ' ')
  indent ++ line ++ "\n" ++ indent ++ gap ++ "^"

namespace Diagnostic

/-- The place of a diagnostic, if it names a file or a message. -/
def place? (d : Diagnostic) : Option String :=
  match d.location with
  | none => none
  | some l => if l.describe.isEmpty then none else some l.describe

/-- A text that is not empty. -/
def nonEmpty? : Option String → Option String
  | some s => if s.isEmpty then none else some s
  | none => none

/-- The word for the severity, in bold red or yellow if colours are on. -/
def severityText (d : Diagnostic) (color : Bool) : String :=
  if color then
    let shade := match d.severity with
      | .error => "1;31"
      | .warning => "1;33"
    s!"\x1b[{shade}m{d.severity.word}\x1b[0m"
  else d.severity.word

/-- The layout over several lines. -/
def renderFull (d : Diagnostic) (color : Bool) : String :=
  let first := s!"{d.severityText color}[{d.code.name}]: {d.message}"
  let place := (d.place?.map fun p => s!"  --> {p}").toList
  let caret := match d.location with
    | some l => (l.index.map fun i => renderCaret l.text i "    ").toList
    | none => []
  let help := ((nonEmpty? d.hint).map fun h => s!"  = help: {h}").toList
  "\n".intercalate (first :: place ++ caret ++ help)

/-- The layout on one line. -/
def renderSimple (d : Diagnostic) : String :=
  let place := match d.place? with
    | some p => s!"[{p}] "
    | none => ""
  s!"{place}{d.code.name}: {d.message}"

/-- The fields of the JSON layout. -/
def fields (d : Diagnostic) : Assoc Value :=
  let text (name : String) (value : Option String) : Assoc Value :=
    ((nonEmpty? value).map fun s => (name, Value.text s)).toList
  let location : Assoc Value := match d.location with
    | none => []
    | some l =>
      text "file" (some l.file) ++ text "message_key" (some l.key) ++
        (l.index.map fun i => ("index", Value.int i)).toList
  [("code", .text d.code.name), ("code_value", .int d.code.number), ("message", .text d.message),
   ("severity", .text d.severity.word)] ++ location ++ text "hint" d.hint

/-- A diagnostic in a layout. -/
def render (d : Diagnostic) (format : DiagnosticFormat) (color : Bool) : String :=
  match format with
  | .full => d.renderFull color
  | .simple => d.renderSimple
  | .json => Json.compact (.object d.fields)

/-- Diagnostics in a layout, with an empty line between each two. -/
def renderAll (ds : List Diagnostic) (format : DiagnosticFormat) (color : Bool) : String :=
  "\n\n".intercalate (ds.map fun d => d.render format color)

/-- The text of an error: the layout over several lines without colours. -/
def errorText (d : Diagnostic) : String := d.renderFull false

end Diagnostic

end Parlance
