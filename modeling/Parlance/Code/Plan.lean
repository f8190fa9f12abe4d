import Parlance.Code.Naming
import Parlance.Entry

/-!
# Plans of generated modules

A plan holds the entries and locales of a module with every name that the module will use: the
classes of the locales, the accessors of the entries and the parameters of each accessor. Making a
plan checks that they are identifiers, that none is reserved, and that no two of a kind agree.
-/

namespace Parlance.Code

open Parlance.Text

/-- Switches of the generated module. -/
structure ModuleOptions where
  /-- The name of the base class. -/
  outputClass : String
  /-- Parameters are passed by keyword only. -/
  namedParameters : Bool
  /-- Looking up a locale that is not supported gives nothing, not the template's class. -/
  nullableGetter : Bool
  /-- Dates and numbers are formatted. -/
  formats : Bool
  /-- A text to stand at the top as comments. -/
  header : Option String
  /-- Linters are told to keep quiet. -/
  suppressWarnings : Bool
  /-- The file name of the template. -/
  templateFile : String
deriving Repr

namespace ModuleOptions

/-- The options unless said otherwise. -/
def standard : ModuleOptions := ⟨"AppLocalizations", false, true, true, none, false, "app_en.arb"⟩

end ModuleOptions

/-- The names of members that every generated class has or uses in its body. -/
def reservedMembers : List String :=
  ["SUPPORTED_LOCALES", "from_locale", "locale_name", "__init__", "abc", "property", "staticmethod"]

/-- The names that the bodies of accessors use. -/
def reservedParameters : List String := ["self", "runtime", "str"]

/-- An entry with the name of its accessor and the parameters of its placeholders. -/
structure Member where
  entry : Entry
  method : String
  parameters : Assoc String
deriving Repr

/-- A module that can be written. -/
structure Plan where
  options : ModuleOptions
  locales : List Locale
  templateLocale : Locale
  /-- The class of each locale, by tag. -/
  classNames : Assoc String
  members : List Member
deriving Repr

namespace Plan

/-- The classes of some locales, by tag. -/
def classNamesOf (outputClass : String) (locales : List Locale) : Assoc String :=
  Assoc.ofPairs (locales.map fun l => (l.tag, outputClass ++ l.camelCase))

/-- The accessors of some keys. -/
def methodNames : List Entry → Except Fault (List (String × String))
  | [] => .ok []
  | e :: rest =>
    (identifierOf "message key" e.key reservedMembers).bind fun m =>
      (methodNames rest).map fun ms => (e.key, m) :: ms

/-- The parameters of some placeholders. -/
def parametersOf : List Resolved → Except Fault (Assoc String)
  | [] => .ok []
  | p :: rest =>
    (identifierOf "placeholder" p.name reservedParameters).bind fun i =>
      (parametersOf rest).map fun is => (p.name, i) :: is

/-- The parameters of an entry together with the local variables for their formatted values. -/
def withFormatted (parameters : Assoc String) : Assoc String :=
  (parameters.map fun p => (s!"{p.1} (formatted)", p.2 ++ "_formatted")).foldl
    (fun all p => all.set p.1 p.2) parameters

/-- The members of some entries with their accessors. -/
def membersOf : List (Entry × String) → Except Fault (List Member)
  | [] => .ok []
  | (e, method) :: rest =>
    (parametersOf e.placeholders).bind fun parameters =>
    (checkUnique "placeholder" (withFormatted parameters)).bind fun _ =>
      (membersOf rest).map fun ms => ⟨e, method, parameters⟩ :: ms

/-- The plan of a module. -/
def make (entries : List Entry) (locales : List Locale) (templateLocale : Locale)
    (options : ModuleOptions) : Except Fault Plan :=
  let name := options.outputClass
  if !isIdentifier name then .error (.invalidIdentifier "output class" name name)
  else
    -- the checks come in this order, and the first that fails is reported
    let classNames := classNamesOf name locales
    (checkUnique "locale" classNames).bind fun _ =>
    (methodNames entries).bind fun methods =>
    (checkUnique "message key" (Assoc.ofPairs methods)).bind fun _ =>
    (membersOf (entries.zip (methods.map (·.2)))).map fun members =>
      ⟨options, locales, templateLocale, classNames, members⟩

/-- The name of the class that loads the messages. -/
def delegateClass (p : Plan) : String := p.options.outputClass ++ "Delegate"

/-- The name of the function that looks messages up. -/
def lookupFunction (p : Plan) : String := "lookup_" ++ snakeCase p.options.outputClass

/-- The class of a locale. -/
def className? (p : Plan) (locale : Locale) : Option String := p.classNames.get? locale.tag

end Plan

end Parlance.Code
