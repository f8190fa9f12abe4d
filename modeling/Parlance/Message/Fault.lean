import Parlance.Message.Tree

/-!
# What can be wrong with a message text

A fault is a reason and the offset of the character that it is about. `Reason.message` is its
wording and `Reason.hint?` the advice that goes with it. The offset is given twice, once to the
diagnostic and once to what is raised with it.
-/

namespace Parlance

/-- What could have stood where something else does. -/
inductive Expectation where
  | text
  | identifier
  | number
  | comma
  | equals
  | openBrace
  | closeBrace
  | placeholderName
  | expressionType
  | dateFormat
  | exactKey
  | caseLabel
deriving DecidableEq, Repr

namespace Expectation

/-- The name of an expectation. -/
def describe : Expectation → String
  | text => "text"
  | identifier => "identifier"
  | number => "number"
  | comma => "','"
  | equals => "'='"
  | openBrace => "'\x7b'"
  | closeBrace => "'\x7d'"
  | placeholderName => "placeholder name"
  | expressionType => "expression type"
  | dateFormat => "date format"
  | exactKey => "'=<number>'"
  | caseLabel => "case label"

/-- Several expectations, any of which would do. -/
def describeAll (expected : List Expectation) : String :=
  " or ".intercalate (expected.map describe)

end Expectation

/-- Why a text is not a message. -/
inductive Reason where
  /-- Something stands where it cannot. -/
  | unexpected (expected : List Expectation) (found : String)
  /-- The text ends inside an expression. -/
  | endsEarly (expected : List Expectation)
  /-- A choice has no branch for all other cases. -/
  | missingOther (kind : ChoiceKind) (name : String)
  /-- A branch of a plural is keyed by a word that is no plural category. -/
  | unknownCategory (word : String)
  /-- Two branches of a choice have one key. -/
  | duplicateBranch (key : Key)
  /-- The word after a placeholder's name is no type of expression. -/
  | unknownType (word : String)
  /-- Choices are nested more deeply than the limit allows. -/
  | tooDeep (limit : Int)
deriving DecidableEq, Repr

namespace Reason

/-- The wording of a reason. -/
def message : Reason → String
  | unexpected expected found =>
    s!"Expected {Expectation.describeAll expected} but found '{found}'"
  | endsEarly expected =>
    s!"Unexpected end of message, expected {Expectation.describeAll expected}"
  | missingOther kind name =>
    s!"The {kind.keyword} expression on '{name}' is missing the mandatory 'other' branch"
  | unknownCategory word => s!"Invalid plural category '{word}'"
  | duplicateBranch key => s!"Duplicate branch '{key.text}'"
  | unknownType word => s!"Unknown expression type '{word}'"
  | tooDeep limit => s!"Maximum nesting depth ({limit}) exceeded"

/-- The advice that goes with a reason. -/
def hint? : Reason → Option String
  | unexpected _ _ => none
  | endsEarly _ => some "Check that every '\x7b' has a matching '\x7d'"
  | missingOther _ _ => some "Add an other\x7b...\x7d branch"
  | unknownCategory _ => some "Use =<number> or one of: zero, one, two, few, many, other"
  | duplicateBranch _ => none
  | unknownType _ => some "Supported expression types are: plural, select, date, time"
  | tooDeep _ => some "Reduce plural/select nesting"

end Reason

/-- A reason, and the offset of the character it is about: `located` is where the diagnostic points
to, and `index` what the fault itself says. -/
structure MessageFault where
  reason : Reason
  located : Nat
  index : Nat
deriving DecidableEq, Repr

end Parlance
