import Parlance.Diagnostic.Render
import Parlance.Text.Pieces

/-!
# Arguments of the command line

Every option but two takes a value, which follows it or stands behind an equals sign. A long option
may be cut short while only one option starts that way, and short options may share one hyphen.
There are no arguments beside the options, and of several values for one option the last counts.
-/

namespace Parlance.CommandLine

/-- The options of the command line. -/
inductive Switch where
  | help
  | project
  | config
  | report
  | format
  | verbose
deriving DecidableEq, Repr

namespace Switch

/-- Every spelling of an option. -/
def spellings : List (String × Switch) :=
  [("-h", help), ("--help", help), ("--project-dir", project), ("--config", config),
   ("--untranslated-messages-file", report), ("--diagnostic-format", format), ("-v", verbose),
   ("--verbose", verbose)]

/-- The option with a spelling. -/
def ofSpelling? (s : String) : Option Switch := (spellings.find? (·.1 == s)).map (·.2)

/-- Whether an option takes a value. -/
def takesValue : Switch → Bool
  | help => false
  | verbose => false
  | _ => true

end Switch

/-- What the command line asks for. -/
structure Invocation where
  project : String
  configFile : Option String
  reportFile : Option String
  format : DiagnosticFormat
  verbose : Bool
deriving DecidableEq, Repr

namespace Invocation

/-- What an empty command line asks for. -/
def standard : Invocation := ⟨".", none, none, .full, false⟩

end Invocation

/-- What an argument looks like, seen alone. -/
inductive Shape where
  /-- The value of an option, or nothing that is allowed. -/
  | plain
  /-- An option, and the value attached to it with an equals sign. -/
  | switch (s : Switch) (value : Option String)
  /-- A short option with other letters behind it. -/
  | cluster (first : Switch) (letters : List Char)
  | unknown
  | ambiguous
deriving DecidableEq, Repr

/-- Whether an argument is a negative number. -/
def isNegativeNumber (s : List Char) : Bool :=
  match s with
  | '-' :: rest =>
    let whole := rest.takeWhile Char.isDigit
    match rest.drop whole.length with
    | [] => !whole.isEmpty
    | '.' :: fraction => !fraction.isEmpty && fraction.all Char.isDigit
    | _ => false
  | _ => false

/-- An argument before and after its first equals sign. -/
def splitValue (s : List Char) : List Char × Option String :=
  let before := s.takeWhile (· != '=')
  match s.drop before.length with
  | _ :: after => (before, some (String.ofList after))
  | [] => (before, none)

/-- The options that an argument may stand for when none is spelled like it. -/
def readings (s : List Char) : List Shape :=
  match s with
  | '-' :: '-' :: _ =>
    let (start, attached) := splitValue s
    (Switch.spellings.filter fun p => start.isPrefixOf p.1.toList).map fun p =>
      .switch p.2 attached
  | '-' :: c :: rest =>
    (Switch.spellings.filter fun p => p.1 == String.ofList ['-', c]).map fun p =>
      .cluster p.2 rest
  | _ => []

/-- The shape of an argument. -/
def Shape.ofText (text : String) : Shape :=
  let s := text.toList
  match s with
  | '-' :: _ :: _ =>
    let (start, attached) := splitValue s
    match Switch.ofSpelling? text, attached, Switch.ofSpelling? (String.ofList start) with
    | some o, _, _ => .switch o none
    | none, some value, some o => .switch o (some value)
    | _, _, _ =>
      -- a beginning of one spelling stands for it
      match readings s with
      | [shape] => shape
      | _ :: _ :: _ => .ambiguous
      | [] => if isNegativeNumber s || s.contains ' ' then .plain else .unknown
  | _ => .plain

/-- What the arguments come to. -/
inductive Parsed where
  | run (i : Invocation)
  | help
  | invalid
deriving DecidableEq, Repr

/-- The invocation with the value of an option, if the option may have that value. -/
def assign (i : Invocation) (o : Switch) (value : String) : Option Invocation :=
  match o with
  | .project => some { i with project := value }
  | .config => some { i with configFile := some value }
  | .report => some { i with reportFile := some value }
  | .format => (DiagnosticFormat.ofName? value).map fun f => { i with format := f }
  | .verbose => none
  | .help => none

/-- The options that share a hyphen with a first one, and whether a letter is left that is none. A
value cannot be attached to them. -/
def lettersOf : List Char → Option (List Switch × Bool)
  | [] => some ([], false)
  | c :: rest =>
    if c == '-' || c == '=' then none
    else
      match Switch.ofSpelling? (String.ofList ['-', c]) with
      | none => some ([], true)
      | some o => (lettersOf rest).map fun (os, stray) => (o :: os, stray)

/-- Goes through the arguments that are left. `strays` says that something came before that is
neither an option nor its value; that is only held against the command line at the end. -/
def collect (i : Invocation) (strays : Bool) : List String → Parsed
  | [] => if strays then .invalid else .run i
  | text :: rest =>
    if text == "--" then .invalid
    else
      match Shape.ofText text with
      | .plain => collect i true rest
      | .unknown => collect i true rest
      | .ambiguous => .invalid
      | .switch o none =>
        -- help is given as soon as it is reached, whatever comes after it
        if o == .help then .help
        else if !o.takesValue then collect { i with verbose := true } strays rest
        else
          match rest with
          | value :: more =>
            if value != "--" && Shape.ofText value == .plain then
              match assign i o value with
              | some i => collect i strays more
              | none => .invalid
            else .invalid
          | [] => .invalid
      | .switch o (some value) =>
        if o.takesValue then
          match assign i o value with
          | some i => collect i strays rest
          | none => .invalid
        else .invalid
      | .cluster first letters =>
        match lettersOf letters with
        | none => .invalid
        | some (others, stray) =>
          if (first :: others).contains .help then .help
          else collect { i with verbose := true } (strays || stray) rest

/-- The arguments before a double hyphen. -/
def beforeSeparator (arguments : List String) : List String := arguments.takeWhile (· != "--")

/-- What a command line asks for. An argument that may be cut short from several options makes it
invalid, even one that would never be reached. -/
def parse (arguments : List String) : Parsed :=
  if (beforeSeparator arguments).any fun a => Shape.ofText a == .ambiguous then .invalid
  else collect .standard false arguments

end Parlance.CommandLine
