import Parlance.Fault
import Parlance.Text.Pieces
import Parlance.Value

/-!
# Placeholders

A placeholder is declared in the metadata of a message, with a type, a format and more, each of
which may be left out. Resolving it settles its type and says how the messages use it.
-/

namespace Parlance

open Parlance.Text

/-- The types of placeholders. -/
inductive PlaceholderType where
  | string
  | int
  | num
  | double
  | dateTime
  | object
deriving DecidableEq, Repr

namespace PlaceholderType

/-- All types. -/
def all : List PlaceholderType := [string, int, num, double, dateTime, object]

/-- A type as metadata spells it. -/
def name : PlaceholderType → String
  | string => "String"
  | int => "int"
  | num => "num"
  | double => "double"
  | dateTime => "DateTime"
  | object => "Object"

/-- The type of a name. -/
def ofName? (s : String) : Option PlaceholderType := all.find? (·.name == s)

/-- Whether values of the type are numbers. -/
def isNumeric : PlaceholderType → Bool
  | int => true
  | num => true
  | double => true
  | _ => false

/-- The annotation of a parameter of the type in the generated module. -/
def annotation : PlaceholderType → String
  | string => "str"
  | int => "int"
  | num => "float"
  | double => "float"
  | dateTime => "datetime.datetime"
  | object => "object"

end PlaceholderType

/-- The date and time skeletons that a format may name. -/
def dateSkeletons : List String :=
  ["d", "E", "EEEE", "LLL", "LLLL", "M", "Md", "MEd", "MMM", "MMMd", "MMMEd", "MMMM", "MMMMd",
   "MMMMEEEEd", "QQQ", "QQQQ", "y", "yM", "yMd", "yMEd", "yMMM", "yMMMd", "yMMMEd", "yMMMM",
   "yMMMMd", "yMMMMEEEEd", "yQQQ", "yQQQQ", "H", "Hm", "Hms", "j", "jm", "jms", "jmv", "jmz", "jv",
   "jz", "m", "ms", "s"]

/-- The number formats that take no parameters. -/
def plainNumberFormats : List String := ["decimalPattern", "percentPattern", "scientificPattern"]

/-- The number formats that take parameters. -/
def parameterizedNumberFormats : List String :=
  ["compact", "compactCurrency", "compactSimpleCurrency", "compactLong", "currency",
   "decimalPatternDigits", "decimalPercentPattern", "simpleCurrency"]

/-- Whether a number format is known. -/
def isNumberFormat (format : String) : Bool :=
  plainNumberFormats.contains format || parameterizedNumberFormats.contains format

/-- A placeholder as metadata declares it. -/
structure Declared where
  name : String
  type : Option PlaceholderType
  format : Option String
  sample : Option String
  parameters : Assoc Value
  customDateFormat : Option Bool
deriving DecidableEq, Repr

namespace Declared

/-- A placeholder of which only the name is known. -/
def bare (name : String) : Declared := ⟨name, none, none, none, [], none⟩

/-- An attribute that is a string of one character at least, if it is present. -/
def textAttribute (key name field : String) (attributes : Assoc Value) :
    Except Fault (Option String) :=
  match Value.field? attributes field with
  | none => .ok none
  | some (.text s) =>
    if s.isEmpty then .error (.invalidAttribute key name field "a non-empty string")
    else .ok (some s)
  | some _ => .error (.invalidAttribute key name field "a non-empty string")

/-- An attribute that is true or false, as such or as a word, if it is present. -/
def boolAttribute (key name field : String) (attributes : Assoc Value) :
    Except Fault (Option Bool) :=
  match Value.field? attributes field with
  | none => .ok none
  | some (.bool b) => .ok (some b)
  | some (.text "true") => .ok (some true)
  | some (.text "false") => .ok (some false)
  | some _ => .error (.invalidAttribute key name field "a boolean value")

/-- An attribute that is an object, if it is present. -/
def objectAttribute (key name field : String) (attributes : Assoc Value) :
    Except Fault (Assoc Value) :=
  match Value.field? attributes field with
  | none => .ok []
  | some (.object entries) => .ok entries
  | some _ => .error (.invalidAttribute key name field "an object")

/-- The type of a name that metadata gives. -/
def typeOfName (key name : String) : Option String → Except Fault (Option PlaceholderType)
  | none => .ok none
  | some s =>
    match PlaceholderType.ofName? s with
    | some t => .ok (some t)
    | none => .error (.invalidType key name s "any" (PlaceholderType.all.map (·.name)))

/-- The placeholder of some attributes. -/
def ofAttributes (key name : String) (attributes : Assoc Value) : Except Fault Declared :=
  (textAttribute key name "type" attributes).bind fun typeName =>
  (textAttribute key name "format" attributes).bind fun format =>
  (textAttribute key name "example" attributes).bind fun sample =>
  (typeOfName key name typeName).bind fun type =>
  (objectAttribute key name "optionalParameters" attributes).bind fun parameters =>
  (boolAttribute key name "isCustomDateFormat" attributes).map fun custom =>
    ⟨name, type, format, sample, parameters, custom⟩

/-- The placeholders of an object of attributes, in order. -/
def ofEntries (path key : String) : Assoc Value → Except Fault (List Declared)
  | [] => .ok []
  | (name, .object attributes) :: rest =>
    (ofAttributes key name attributes).bind fun d =>
      (ofEntries path key rest).map fun ds => d :: ds
  | (name, _) :: _ => .error (.malformedMetadata path key s!"placeholders.{name}")

/-- The placeholders that the metadata of a message declares, in order. -/
def ofMetadata (path key : String) (metadata : Option (Assoc Value)) :
    Except Fault (List Declared) :=
  match metadata with
  | none => .ok []
  | some entries =>
    match Value.field? entries "placeholders" with
    | none => .ok []
    | some (.object placeholders) => ofEntries path key placeholders
    | some _ => .error (.malformedMetadata path key "placeholders")

end Declared

/-- A placeholder with its type settled. -/
structure Resolved where
  declared : Declared
  type : PlaceholderType
  usedAsPlural : Bool
  usedAsSelect : Bool
  usedAsDateTime : Bool
  requiresDateFormatting : Bool
  synthesized : Bool
deriving DecidableEq, Repr

namespace Resolved

/-- The name of the placeholder. -/
def name (p : Resolved) : String := p.declared.name

/-- The format of the placeholder, if it has one. -/
def format (p : Resolved) : Option String := p.declared.format

/-- Whether the format is a date pattern and not a skeleton. -/
def isCustomDateFormat (p : Resolved) : Bool := p.declared.customDateFormat.getD false

/-- Whether the value is a number with a format. -/
def requiresNumberFormatting (p : Resolved) : Bool := p.type.isNumeric && p.format.isSome

/-- Whether the value is formatted before it is written out. -/
def requiresFormatting (p : Resolved) : Bool :=
  p.requiresDateFormatting || p.requiresNumberFormatting

/-- The skeletons of a date format. -/
def dateFormatParts (p : Resolved) : List String :=
  match p.format with
  | none => []
  | some format => cutAt '+' format

/-- Whether every skeleton of the date format is known. -/
def hasValidDateFormat (p : Resolved) : Bool := p.dateFormatParts.all dateSkeletons.contains

/-- Whether the format is a known number format. -/
def hasValidNumberFormat (p : Resolved) : Bool :=
  match p.format with
  | none => false
  | some format => isNumberFormat format

/-- Whether the format is a number format that takes parameters. -/
def hasParameterizedFormat (p : Resolved) : Bool :=
  match p.format with
  | none => false
  | some format => parameterizedNumberFormats.contains format

end Resolved

end Parlance
