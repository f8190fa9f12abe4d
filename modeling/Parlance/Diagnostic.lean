/-!
# Diagnostics

A diagnostic is a message with a code, and optionally a place and advice. Codes are numbered by
area: bundles from 1001, message texts from 2001, placeholders from 3001, generated code from 4001
and configuration from 5001.
-/

namespace Parlance

/-- The codes of diagnostics. -/
inductive Code where
  | malformedBundle
  | localeMismatch
  | localeUndetermined
  | invalidValueType
  | malformedMetadata
  | missingResourceAttribute
  | duplicateLocale
  | missingFallback
  | noBundles
  | missingResource
  | bundleUnreadable
  | templateNotFound
  | unexpectedToken
  | unexpectedEnd
  | missingOtherBranch
  | invalidPluralCategory
  | duplicateBranch
  | unknownExpressionType
  | nestingDepthExceeded
  | conflictingPlaceholderUsage
  | invalidPlaceholderType
  | invalidPlaceholderFormat
  | invalidPlaceholderAttribute
  | invalidIdentifier
  | duplicateIdentifier
  | reservedIdentifier
  | invalidConfigValue
  | unknownPreferredLocale
  | configUnreadable
deriving DecidableEq, Repr

namespace Code

/-- The name of a code. -/
def name : Code → String
  | malformedBundle => "MALFORMED_BUNDLE"
  | localeMismatch => "LOCALE_MISMATCH"
  | localeUndetermined => "LOCALE_UNDETERMINED"
  | invalidValueType => "INVALID_VALUE_TYPE"
  | malformedMetadata => "MALFORMED_METADATA"
  | missingResourceAttribute => "MISSING_RESOURCE_ATTRIBUTE"
  | duplicateLocale => "DUPLICATE_LOCALE"
  | missingFallback => "MISSING_FALLBACK"
  | noBundles => "NO_BUNDLES"
  | missingResource => "MISSING_RESOURCE"
  | bundleUnreadable => "BUNDLE_UNREADABLE"
  | templateNotFound => "TEMPLATE_NOT_FOUND"
  | unexpectedToken => "UNEXPECTED_TOKEN"
  | unexpectedEnd => "UNEXPECTED_EOF"
  | missingOtherBranch => "MISSING_OTHER_BRANCH"
  | invalidPluralCategory => "INVALID_PLURAL_CATEGORY"
  | duplicateBranch => "DUPLICATE_BRANCH"
  | unknownExpressionType => "UNKNOWN_EXPRESSION_TYPE"
  | nestingDepthExceeded => "NESTING_DEPTH_EXCEEDED"
  | conflictingPlaceholderUsage => "CONFLICTING_PLACEHOLDER_USAGE"
  | invalidPlaceholderType => "INVALID_PLACEHOLDER_TYPE"
  | invalidPlaceholderFormat => "INVALID_PLACEHOLDER_FORMAT"
  | invalidPlaceholderAttribute => "INVALID_PLACEHOLDER_ATTRIBUTE"
  | invalidIdentifier => "INVALID_IDENTIFIER"
  | duplicateIdentifier => "DUPLICATE_IDENTIFIER"
  | reservedIdentifier => "RESERVED_IDENTIFIER"
  | invalidConfigValue => "INVALID_CONFIG_VALUE"
  | unknownPreferredLocale => "UNKNOWN_PREFERRED_LOCALE"
  | configUnreadable => "CONFIG_UNREADABLE"

/-- The number of a code. -/
def number : Code → Nat
  | malformedBundle => 1001
  | localeMismatch => 1002
  | localeUndetermined => 1003
  | invalidValueType => 1004
  | malformedMetadata => 1005
  | missingResourceAttribute => 1006
  | duplicateLocale => 1007
  | missingFallback => 1008
  | noBundles => 1009
  | missingResource => 1010
  | bundleUnreadable => 1011
  | templateNotFound => 1012
  | unexpectedToken => 2001
  | unexpectedEnd => 2002
  | missingOtherBranch => 2003
  | invalidPluralCategory => 2004
  | duplicateBranch => 2005
  | unknownExpressionType => 2006
  | nestingDepthExceeded => 2007
  | conflictingPlaceholderUsage => 3001
  | invalidPlaceholderType => 3002
  | invalidPlaceholderFormat => 3003
  | invalidPlaceholderAttribute => 3004
  | invalidIdentifier => 4001
  | duplicateIdentifier => 4002
  | reservedIdentifier => 4003
  | invalidConfigValue => 5001
  | unknownPreferredLocale => 5002
  | configUnreadable => 5003

/-- All codes, by number. -/
def all : List Code :=
  [malformedBundle, localeMismatch, localeUndetermined, invalidValueType, malformedMetadata,
   missingResourceAttribute, duplicateLocale, missingFallback, noBundles, missingResource,
   bundleUnreadable, templateNotFound, unexpectedToken, unexpectedEnd, missingOtherBranch,
   invalidPluralCategory, duplicateBranch, unknownExpressionType, nestingDepthExceeded,
   conflictingPlaceholderUsage, invalidPlaceholderType, invalidPlaceholderFormat,
   invalidPlaceholderAttribute, invalidIdentifier, duplicateIdentifier, reservedIdentifier,
   invalidConfigValue, unknownPreferredLocale, configUnreadable]

/-- The code of a name. -/
def ofName? (s : String) : Option Code := all.find? (·.name == s)

end Code

/-- How grave a diagnostic is. -/
inductive Severity where
  | error
  | warning
deriving DecidableEq, Repr

namespace Severity

/-- The word for a severity. -/
def word : Severity → String
  | error => "error"
  | warning => "warning"

end Severity

/-- Where a diagnostic points to: a file, a message in it, and a character of the message's text.
Whatever does not apply is empty. -/
structure Location where
  file : String
  key : String
  text : String
  index : Option Nat
deriving DecidableEq, Repr

/-- An offset that lies outside its text. -/
structure LocationFault where
  index : Int
  length : Nat
deriving DecidableEq, Repr

namespace LocationFault

/-- The wording of a fault. -/
def message (f : LocationFault) : String :=
  s!"SourceLocation.index must be within text (0..{f.length}), got {f.index}"

end LocationFault

namespace Location

/-- A location without an offset. -/
def inFile (file : String) : Location := ⟨file, "", "", none⟩

/-- The location of a message. -/
def ofMessage (file key : String) : Location := ⟨file, key, "", none⟩

/-- A location whose offset, if there is one, must lie within the text or at its end. -/
def within (file key text : String) (index : Option Int) : Except LocationFault Location :=
  match index with
  | none => .ok ⟨file, key, text, none⟩
  | some i =>
    if 0 ≤ i ∧ i ≤ text.length then .ok ⟨file, key, text, some i.toNat⟩
    else .error ⟨i, text.length⟩

/-- The file and the key, with a colon between them if there are both. -/
def describe (l : Location) : String :=
  if l.file.isEmpty then l.key else if l.key.isEmpty then l.file else s!"{l.file}:{l.key}"

end Location

/-- A message about an input, for a reader or a tool. -/
structure Diagnostic where
  code : Code
  message : String
  location : Option Location
  hint : Option String
  severity : Severity
deriving DecidableEq, Repr

end Parlance
