import Parlance.Code.Body
import Parlance.Code.Plan
import Parlance.Text.Lines

/-!
# Text of the generated module

A module has a header with its imports, a base class with an abstract member for every entry, a
class for every locale, the tables that find the class of a locale, and the functions around them.
Two empty lines stand between the blocks.
-/

namespace Parlance.Code

open Parlance.Text

/-- A text without the line feeds at its end. -/
def dropFinalNewlines (s : String) : String :=
  String.ofList ((s.toList.reverse.dropWhile (· == '\n')).reverse)

/-- A text without the white space at its end. -/
def dropFinalBlanks (s : String) : String :=
  String.ofList ((s.toList.reverse.dropWhile isBlank).reverse)

/-- Two steps of indentation. -/
def bodyIndent : String := step ++ step

/-- A line of the header text as a comment. -/
def headerLine (line : String) : String :=
  match line.toList with
  | '#' :: _ => line
  | _ => dropFinalBlanks ("# " ++ line)

/-- Whether some placeholder is a date. -/
def usesDates (plan : Plan) : Bool :=
  plan.members.any fun m => m.entry.placeholders.any (·.type == .dateTime)

/-- The header and the imports. -/
def headerBlock (plan : Plan) : String :=
  let options := plan.options
  let banner :=
    dropFinalNewlines s!"# Generated by arbgen from {options.templateFile}. Do not edit.\n"
  let header := match options.header with
    | some h => (lines h).map headerLine
    | none => []
  let quiet := if options.suppressWarnings then ["# ruff: noqa"] else []
  let dates := if usesDates plan then "import datetime\n" else ""
  "\n".intercalate (banner :: header ++ quiet) ++ "\n\n" ++
    "from __future__ import annotations\n\n" ++
    s!"import abc\n{dates}\n" ++
    "from arbgen import runtime\n\n" ++
    "__all__ = [\n" ++
    s!"    \"{options.outputClass}\",\n" ++
    s!"    \"{plan.delegateClass}\",\n" ++
    "    \"delegate\",\n" ++
    s!"    \"{plan.lookupFunction}\",\n" ++
    "]"

/-- The type of what looking up a locale gives. -/
def returnType (plan : Plan) : String :=
  if plan.options.nullableGetter then plan.options.outputClass ++ " | None"
  else plan.options.outputClass

/-- The parameters of an accessor with their types. -/
def parameterList (plan : Plan) (m : Member) : Except Failure String :=
  let declared? := m.entry.placeholders.mapM fun p =>
    (m.parameters.get? p.name).map fun i => s!"{i}: {p.type.annotation}"
  match declared? with
  | none => .error .missingKey
  | some declared =>
    .ok (", ".intercalate (if plan.options.namedParameters then "*" :: declared else declared))

/-- The lines of the documentation of an accessor. -/
def documentation (plan : Plan) (e : Entry) : String × List String :=
  let description := match e.description with
    | some d => if d.isEmpty then s!"No description provided for {e.key}." else d
    | none => s!"No description provided for {e.key}."
  -- a description or context that is empty counts as none
  let context := match e.context with
    | some c => if c.isEmpty then [] else "" :: lines s!"Context: {c}"
    | none => []
  let reference := (cutAt '\n' e.reference).map fun l => s!"'{l}'"
  let rest := context ++
    ["", s!"In {plan.templateLocale.tag}, this message translates to:"] ++ reference
  match lines description with
  | [] => ("", rest)
  | first :: more => (first, more ++ rest)

/-- The head of an accessor: a property when the entry has no placeholders, else a method. -/
def accessorHead (plan : Plan) (m : Member) (isAbstract : Bool) : Except Failure String :=
  let mark := if isAbstract then "    @abc.abstractmethod\n" else ""
  if m.entry.placeholders.isEmpty then
    .ok (s!"\n    @property\n{mark}    def {m.method}(self) -> str:\n")
  else
    (parameterList plan m).map fun ps => s!"\n{mark}    def {m.method}(self, {ps}) -> str:\n"

/-- The abstract member of an entry. -/
def abstractMember (plan : Plan) (m : Member) : Except Failure String :=
  let (first, rest) := documentation plan m.entry
  (accessorHead plan m true).map fun head => head ++ docString bodyIndent first rest ++ "\n"

/-- Texts after one another. -/
def joinMapped (f : Member → Except Failure String) : List Member → Except Failure String
  | [] => .ok ""
  | m :: rest => (f m).bind fun s => (joinMapped f rest).map fun t => s ++ t

/-- The class that stands in for locales that are not supported. -/
def defaultClass (plan : Plan) : Except Failure String :=
  match plan.locales with
  | [] => .error .emptyList
  | first :: _ =>
    match plan.className? plan.templateLocale, plan.className? first with
    | some c, _ => .ok c
    | none, some c => .ok c
    | none, none => .error .missingKey

/-- The base class. -/
def baseClassBlock (plan : Plan) : Except Failure String :=
  let name := plan.options.outputClass
  let fallback : Except Failure (String × String) :=
    -- what a lookup without a locale ends in
    if plan.options.nullableGetter then
      .ok ("        if factory is None:\n            return None", "None")
    else
      (defaultClass plan).map fun c =>
        (s!"        if factory is None:\n            return {c}()", plan.templateLocale.tag)
  let tags := plan.locales.map (·.tag)
  fallback.bind fun (fallback, fallbackName) =>
  (joinMapped (abstractMember plan) plan.members).map fun members =>
    s!"class {name}(abc.ABC):\n" ++
    "    \"\"\"Localized messages of this application.\n\n" ++
    s!"    Instances are obtained with {name}.from_locale() or\n" ++
    s!"    {plan.lookupFunction}(). Supported locales: " ++ ", ".intercalate tags ++ ".\n" ++
    "    \"\"\"\n\n" ++
    "    SUPPORTED_LOCALES: tuple[str, ...] = (" ++ tupleItems (tags.map stringLiteral) ++
    ")\n\n" ++
    "    def __init__(self, locale_name: str) -> None:\n" ++
    "        self.locale_name = locale_name\n\n" ++
    "    @staticmethod\n" ++
    "    def from_locale(locale: str) -> " ++ returnType plan ++ ":\n" ++
    "        \"\"\"Return the localizations for locale.\n\n" ++
    s!"        Lookup order: the exact locale, then its language, then {fallbackName}.\n" ++
    "        \"\"\"\n" ++
    "        tag = locale.replace(\"-\", \"_\")\n" ++
    "        factory = _LOCALE_FACTORIES.get(tag) or " ++
    "_LOCALE_FACTORIES.get(tag.split(\"_\")[0])\n" ++
    fallback ++ "\n" ++
    "        return factory()\n" ++
    members

/-- The statements of the accessor of an entry in a locale; one that has no message refuses. -/
def statementsFor (plan : Plan) (locale : Locale) (m : Member) :
    Except Failure (List Statement) :=
  match m.entry.messageFor? locale with
  | none => .ok [.refuse s!"{m.entry.key} is not translated for {locale.tag}"]
  | some message =>
    bodyOf ⟨m.entry.placeholdersFor locale, m.parameters, plan.options.formats⟩ message

/-- The accessor of an entry in a locale. -/
def accessor (plan : Plan) (locale : Locale) (m : Member) : Except Failure String :=
  (statementsFor plan locale m).bind fun statements =>
  (accessorHead plan m false).map fun head =>
    let body := statements.map fun s => bodyIndent ++ s.print bodyIndent
    head ++ "\n".intercalate body ++ "\n"

/-- The class of a locale. -/
def localeClassBlock (plan : Plan) (locale : Locale) : Except Failure String :=
  (joinMapped (accessor plan locale) plan.members).bind fun members =>
  match plan.className? locale with
  | none => .error .missingKey
  | some name =>
    .ok (s!"class {name}({plan.options.outputClass}):\n" ++
      s!"    \"\"\"The translations for {locale.tag}.\"\"\"\n\n" ++
      s!"    def __init__(self, locale_name: str = \"{locale.tag}\") -> None:\n" ++
      "        super().__init__(locale_name)\n" ++
      members)

/-- The classes of some locales. -/
def localeClassBlocks (plan : Plan) : List Locale → Except Failure (List String)
  | [] => .ok []
  | l :: rest =>
    (localeClassBlock plan l).bind fun s => (localeClassBlocks plan rest).map fun ss => s :: ss

/-- The entry of a locale in the table of classes. -/
def factoryEntry (plan : Plan) (locale : Locale) : Except Failure String :=
  match plan.className? locale with
  | none => .error .missingKey
  | some name => .ok s!"    {stringLiteral locale.tag}: {name},"

/-- The languages of some locales, in order and each once. -/
def languagesOf (locales : List Locale) : List String :=
  ((locales.map (·.language)).eraseDups).mergeSort fun a b => decide (a ≤ b)

/-- The tables of classes and languages. -/
def factoriesBlock (plan : Plan) : Except Failure String :=
  (plan.locales.mapM (factoryEntry plan)).map fun entries =>
    s!"_LOCALE_FACTORIES: dict[str, type[{plan.options.outputClass}]] = " ++ "\x7b\n" ++
    "\n".intercalate entries ++ "\n\x7d\n\n" ++
    "_SUPPORTED_LANGUAGES: frozenset[str] = frozenset((" ++
    tupleItems ((languagesOf plan.locales).map stringLiteral) ++ "))"

/-- The class that loads the messages. -/
def delegateBlock (plan : Plan) : String :=
  let name := plan.options.outputClass
  let body :=
    if plan.options.nullableGetter then
      s!"        localizations = {name}.from_locale(locale)\n" ++
      "        if localizations is None:\n" ++
      "            msg = f\"Unsupported locale: \x7blocale\x7d\"\n" ++
      "            raise LookupError(msg)\n" ++
      "        return localizations"
    else s!"        return {name}.from_locale(locale)"
  s!"class {plan.delegateClass}(runtime.LocalizationsDelegate[{name}]):\n" ++
  s!"    \"\"\"Loads {name} for supported languages.\"\"\"\n\n" ++
  "    def is_supported(self, locale: str) -> bool:\n" ++
  "        return locale.replace(\"-\", \"_\").split(\"_\")[0] in _SUPPORTED_LANGUAGES\n\n" ++
  s!"    async def load(self, locale: str) -> {name}:\n" ++
  body

/-- The function that looks messages up. -/
def footerBlock (plan : Plan) : String :=
  let name := plan.options.outputClass
  s!"delegate = {plan.delegateClass}()\n\n\n" ++
  s!"def {plan.lookupFunction}(locale: str) -> " ++ returnType plan ++ ":\n" ++
  s!"    \"\"\"Return the localizations for locale (see {name}.from_locale).\"\"\"\n" ++
  s!"    return {name}.from_locale(locale)\n"

/-- The blocks of a module. -/
def blocks (plan : Plan) : Except Failure (List String) :=
  (baseClassBlock plan).bind fun base =>
  (localeClassBlocks plan plan.locales).bind fun classes =>
  (factoriesBlock plan).map fun factories =>
    [headerBlock plan, base] ++ classes ++ [factories, delegateBlock plan, footerBlock plan]

/-- The text of a module. -/
def emit (plan : Plan) : Except Failure String :=
  (blocks plan).map fun bs => "\n\n\n".intercalate (bs.map dropFinalNewlines) ++ "\n"

end Parlance.Code
