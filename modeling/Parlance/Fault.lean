import Parlance.Depth
import Parlance.Diagnostic.Render
import Parlance.Message.Parser

/-!
# What can go wrong

`Fault` has a constructor for each cause that the program reports in its own words, and
`Fault.diagnostic?` gives the words. `Failure` adds what stops a run without a diagnostic: a file
system that refuses, a text that is not UTF-8, a number that is too long.
-/

namespace Parlance

/-- Where a message text comes from: a file, the key of the message in it, and the text. -/
structure Site where
  file : String
  key : String
  text : String
deriving DecidableEq, Repr

/-- Causes of failure. -/
inductive Fault where
  /-- A bundle file is not a JSON object. -/
  | malformedBundle (path detail : String)
  /-- A bundle file cannot be read. -/
  | bundleUnreadable (path detail : String)
  /-- A bundle declares another locale than its file name. -/
  | localeMismatch (path declared fromFilename : String)
  /-- Neither the bundle nor its file name gives a locale. -/
  | localeUndetermined (path : String)
  /-- The locale that a bundle declares is not a string. -/
  | localeNotText (path : String)
  /-- The value of a message is not a string. -/
  | translationNotText (path key : String)
  /-- The metadata of a message, or a field of it, has the wrong shape. -/
  | malformedMetadata (path key field : String)
  /-- A message lacks metadata that is required. -/
  | missingAttribute (path key : String)
  /-- A message of the template has no value. -/
  | missingResource (path key : String)
  /-- Two bundles have one locale. -/
  | duplicateLocale (locale : String) (paths : List String)
  /-- A language has bundles for regions or scripts but none for itself. -/
  | missingFallback (language : String) (dependents : List String)
  /-- A directory holds no bundles. -/
  | noBundles (directory : String)
  /-- The template is not among the bundles. -/
  | templateNotFound (path : String) (available : List String)
  /-- A text is not a message. -/
  | message (site : Site) (fault : MessageFault)
  /-- A message is nested too deeply to be walked through. -/
  | depthExceeded (limit : Int)
  /-- A placeholder has several roles that exclude each other. -/
  | conflictingUsage (key name : String) (roles : List String)
  /-- A placeholder is declared with a type that its role does not allow. -/
  | invalidType (key name declared role : String) (allowed : List String)
  /-- A placeholder has a date format that is not known. -/
  | invalidDateFormat (key name format : String)
  /-- A placeholder has a number format that is not known. -/
  | invalidNumberFormat (key name format : String)
  /-- An attribute of a placeholder has the wrong shape. -/
  | invalidAttribute (key name field expected : String)
  /-- A name does not become an identifier. -/
  | invalidIdentifier (kind name identifier : String)
  /-- Several names become one identifier. -/
  | duplicateIdentifier (kind identifier : String) (names : List String)
  /-- A name becomes an identifier that is taken. -/
  | reservedIdentifier (kind name identifier : String)
  /-- A configuration option has a value of the wrong type. -/
  | invalidConfigValue (key expected got : String)
  /-- A preferred locale has no bundle. -/
  | unknownPreferredLocale (locale : String) (available : List String)
  /-- The header file cannot be read. -/
  | headerUnreadable (path detail : String)
deriving DecidableEq, Repr

/-- Texts in single quotes with commas between them. -/
def quotedList (values : List String) : String :=
  ", ".intercalate (values.map fun v => s!"'{v}'")

namespace Reason

/-- The code of a reason. -/
def code : Reason → Code
  | unexpected _ _ => .unexpectedToken
  | endsEarly _ => .unexpectedEnd
  | missingOther _ _ => .missingOtherBranch
  | unknownCategory _ => .invalidPluralCategory
  | duplicateBranch _ => .duplicateBranch
  | unknownType _ => .unknownExpressionType
  | tooDeep _ => .nestingDepthExceeded

end Reason

namespace Fault

/-- The diagnostic of a fault in the text of a message. -/
def messageDiagnostic (site : Site) (f : MessageFault) : Diagnostic :=
  ⟨f.reason.code, f.reason.message, some ⟨site.file, site.key, site.text, some f.located⟩,
    f.reason.hint?, .error⟩

/-- The diagnostic of a fault. -/
def diagnostic? (fault : Fault) : Option Diagnostic :=
  let report (code : Code) (message : String) (location : Option Location)
      (hint : Option String) : Option Diagnostic := some ⟨code, message, location, hint, .error⟩
  match fault with
  | malformedBundle path detail =>
    report .malformedBundle s!"The ARB file {path} has the following formatting issue: {detail}"
      (some (.inFile path)) (some "ARB files must contain a single JSON object")
  | bundleUnreadable path detail =>
    report .bundleUnreadable s!"Unable to read the ARB file {path}: {detail}"
      (some (.inFile path)) none
  | localeMismatch path declared fromFilename =>
    report .localeMismatch
      (s!"The locale specified in @@locale ('{declared}') and the ARB filename " ++
        s!"('{fromFilename}') do not match")
      (some (.inFile path))
      (some ("Make them match, or specify the locale in either the filename or the @@locale " ++
        "key only"))
  | localeUndetermined path =>
    report .localeUndetermined s!"The locale of the ARB file {path} could not be determined"
      (some (.inFile path))
      (some ("Specify the locale in the '@@locale' property or as part of the filename " ++
        "(e.g. app_en.arb)"))
  | localeNotText path =>
    report .invalidValueType s!"The @@locale value in {path} is not a string"
      (some (.inFile path)) none
  | translationNotText path key =>
    report .invalidValueType s!"Localized message for key \"{key}\" in \"{path}\" is not a string"
      (some (.ofMessage path key)) none
  | malformedMetadata path key field =>
    report .malformedMetadata
      (if field.isEmpty then
        s!"The resource attribute \"@{key}\" is not a properly formatted object"
      else s!"The \"{field}\" attribute of \"@{key}\" is not properly formatted")
      (some (.ofMessage path key))
      (some "Metadata objects must map string keys to values of the documented types")
  | missingAttribute path key =>
    report .missingResourceAttribute s!"Resource attribute \"@{key}\" was not found"
      (some (.ofMessage path key))
      (some "Ensure that each resource has a corresponding @resource entry")
  | missingResource path key =>
    report .missingResource s!"A value for resource \"{key}\" was not found"
      (some (.ofMessage path key)) none
  | duplicateLocale locale paths =>
    report .duplicateLocale
      (s!"Multiple ARB files with the same '{locale}' locale detected: " ++ quotedList paths) none
      (some "Ensure that there is exactly one ARB file for each locale")
  | missingFallback language dependents =>
    report .missingFallback
      (s!"ARB file for a fallback, '{language}', does not exist, even though the " ++
        "following locale(s) exist: " ++ quotedList dependents) none
      (some ("When locales specify a script code or country code, a base locale " ++
        "(without the script code or country code) must exist. Create a " ++
        s!"<name>_{language}.arb file"))
  | noBundles directory =>
    report .noBundles s!"No ARB files found in: {directory}" (some (.inFile directory)) none
  | templateNotFound path available =>
    report .templateNotFound
      (s!"Unable to find the template ARB file: {path}. Found: " ++ quotedList available)
      (some (.inFile path)) (some "Check template-arb-file and arb-dir in the configuration")
  | message site f => some (messageDiagnostic site f)
  | depthExceeded limit =>
    report .nestingDepthExceeded (Reason.tooDeep limit).message none (Reason.tooDeep limit).hint?
  | conflictingUsage key name roles =>
    report .conflictingPlaceholderUsage
      (s!"Placeholder '{name}' is used as " ++ " and ".intercalate roles ++
        " in different places or languages")
      (some (.ofMessage "" key))
      (some ("A placeholder can be a plural, select or datetime selector, but only one of " ++
        "them"))
  | invalidType key name declared role allowed =>
    report .invalidPlaceholderType
      (s!"Placeholder '{name}' is declared as '{declared}' but placeholders used in " ++
        s!"{role} expressions must be of type " ++ quotedList allowed)
      (some (.ofMessage "" key)) none
  | invalidDateFormat key name format =>
    report .invalidPlaceholderFormat
      s!"Date format '{format}' for placeholder '{name}' is not a known date skeleton"
      (some (.ofMessage "" key))
      (some ("Use known skeletons joined with \"+\" (e.g. \"yMd+jms\") or set " ++
        "\"isCustomDateFormat\": \"true\""))
  | invalidNumberFormat key name format =>
    report .invalidPlaceholderFormat
      s!"Number format '{format}' for placeholder '{name}' is not supported"
      (some (.ofMessage "" key))
      (some "Use one of: compact, compactCurrency, compactLong, currency, decimalPattern, ...")
  | invalidAttribute key name field expected =>
    report .invalidPlaceholderAttribute
      (s!"The \"{field}\" value of the \"{name}\" placeholder in message {key} " ++
        s!"must be {expected}")
      (some (.ofMessage "" key)) none
  | invalidIdentifier kind name identifier =>
    report .invalidIdentifier
      (s!"The {kind} name '{name}' maps to '{identifier}', which is not a valid Python " ++
        "identifier")
      none
      (some ("Use names made of letters, digits and underscores that do not start with a " ++
        "digit"))
  | duplicateIdentifier kind identifier names =>
    report .duplicateIdentifier
      (s!"The {kind} names " ++ quotedList names ++ s!" all map to '{identifier}'") none
      (some "Rename one of them")
  | reservedIdentifier kind name identifier =>
    report .reservedIdentifier
      (s!"The {kind} name '{name}' maps to '{identifier}', which is reserved in generated " ++
        "code")
      none (some "Rename it")
  | invalidConfigValue key expected got =>
    report .invalidConfigValue s!"Configuration option '{key}' must be {expected}, got {got}"
      none none
  | unknownPreferredLocale locale available =>
    report .unknownPreferredLocale
      (s!"The preferred supported locale '{locale}' cannot be added. Please make sure " ++
        "that there is a corresponding ARB file. Available locales: " ++ quotedList available)
      none none
  | headerUnreadable _ _ => none

/-- The text of a fault. -/
def text (fault : Fault) : String :=
  match fault.diagnostic?, fault with
  | some d, _ => d.errorText
  | none, headerUnreadable path detail => s!"Failed to read header file {path}: {detail}"
  | none, _ => ""

end Fault

/-- Everything that stops a run. -/
inductive Failure where
  /-- A cause that is reported in the program's own words. -/
  | fault (f : Fault)
  /-- An integer with more digits than are read. -/
  | oversizedNumber (digits : Nat)
  /-- A value that its format allows and its type does not. -/
  | badValue (message : String)
  /-- A file that is not UTF-8. -/
  | undecodable
  /-- A path where there is nothing. -/
  | missingFile
  /-- A directory in the place of a file. -/
  | isDirectory
  /-- A file in the place of a directory. -/
  | notDirectory
  /-- A table of a configuration file is not one. -/
  | notTable
  /-- A name that a table lacks. -/
  | missingKey
  /-- The first of an empty list. -/
  | emptyList
  /-- A value that is not text where text is read. -/
  | notText
  /-- A number that is too great for its type. -/
  | overflow
  /-- Values that are nested in each other too deeply. -/
  | tooDeep
deriving DecidableEq, Repr

namespace Failure

/-- The failure of a text to be a message. -/
def ofParse (site : Site) : ParseFailure → Failure
  | .fault f => .fault (.message site f)
  | .oversizedNumber digits => .oversizedNumber digits

end Failure

end Parlance
