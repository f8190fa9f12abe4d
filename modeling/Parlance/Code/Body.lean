import Parlance.Code.Expr
import Parlance.Entry

/-!
# Bodies of accessors

The body of an accessor formats the placeholders that need it, each into a local variable, and gives
back the expression of the message. Names are looked up in a `Scope`, and a name that it lacks makes
the whole body fail.
-/

namespace Parlance.Code

/-- What the names of a message stand for in a locale: their placeholders and their parameters. -/
structure Scope where
  placeholders : List Resolved
  parameters : Assoc String
  /-- Dates and numbers are formatted for the locale. -/
  formats : Bool

/-- The keywords that the formatting of numbers takes. -/
def formatKeywords : List String := ["name", "symbol", "decimalDigits", "customPattern"]

namespace Scope

/-- The placeholder of a name. -/
def placeholder? (scope : Scope) (name : String) : Option Resolved :=
  scope.placeholders.find? (·.name == name)

/-- The parameter of a name. -/
def parameter? (scope : Scope) (name : String) : Option String := scope.parameters.get? name

/-- Whether a placeholder is formatted before it is written out. -/
def formatsPlaceholder (scope : Scope) (p : Resolved) : Bool :=
  scope.formats && p.requiresFormatting

end Scope

/-- The local variable that holds the formatted value of a parameter. -/
def formattedName (parameter : String) : String := parameter ++ "_formatted"

/-- The name of the locale in an accessor. -/
def localeName : Expr := .name "self.locale_name"

/-- The expression of a parameter of a number format. -/
def optionExpr : Value → Expr
  | .text s => .literal s
  | v => .data v

/-- The parameters of a number format that are passed on. -/
def formatOptions (p : Resolved) : List Argument :=
  if p.hasParameterizedFormat then
    (p.declared.parameters.filter fun o => formatKeywords.contains o.1).map fun o =>
      .named o.1 (optionExpr o.2)
  else []

/-- The call that formats the value of a parameter. -/
def formatCall (p : Resolved) (parameter : String) : Expr :=
  if p.requiresDateFormatting then
    match p.isCustomDateFormat, p.format with
    -- a custom format is one pattern; any other is made of skeletons joined by a plus sign
    | true, some format =>
      .call "runtime.format_date" false
        [.positional (.name parameter), .positional (.tuple [.literal format]),
         .positional localeName, .named "custom" (.name "True")]
    | _, _ =>
      .call "runtime.format_date" false
        [.positional (.name parameter),
         .positional (.tuple (p.dateFormatParts.map .literal)), .positional localeName]
  else
    .call "runtime.format_number" false
      ([.positional (.name parameter), .positional (.literal (p.format.getD "")),
        .positional localeName] ++ formatOptions p)

/-- The statement that formats the value of a placeholder. -/
def formatStatement? (scope : Scope) (p : Resolved) : Option Statement :=
  (scope.parameter? p.name).map fun parameter =>
    .assign (formattedName parameter) (formatCall p parameter)

/-- The expression of a reference. -/
def referenceExpr? (scope : Scope) (name : String) : Option Expr :=
  (scope.placeholder? name).bind fun p =>
    (scope.parameter? name).map fun parameter =>
      if scope.formatsPlaceholder p then .name (formattedName parameter)
      else if p.type = .string then .name parameter
      else .call "str" false [.positional (.name parameter)]

/-- The expression of a date or time argument. -/
def argumentExpr? (scope : Scope) (name : String) (kind : ArgumentKind)
    (skeleton : Option String) : Option Expr :=
  (scope.parameter? name).map fun parameter =>
    if scope.formats then
      let format : Expr := match skeleton with
        | some s => .literal s
        | none => .name "None"
      -- without a skeleton the runtime must be told a time from a date
      let time : List Argument :=
        if skeleton.isNone && kind = .time then [.named "time" (.name "True")] else []
      .call "runtime.format_datetime_skeleton" false
        ([.positional (.name parameter), .positional format, .positional localeName] ++ time)
    else .call "str" false [.positional (.name parameter)]

/-- A branch with the expression of its message. -/
structure CompiledBranch where
  key : Key
  value : Expr

/-- The entries of the branches keyed by a number. -/
def exactPairs (branches : List CompiledBranch) : List Pair :=
  branches.filterMap fun b => b.key.value?.map fun n => .mk (.number n) b.value

/-- The expression of the branch of a word. -/
def wordValue? (branches : List CompiledBranch) (word : String) : Option Expr :=
  (branches.find? (·.key == .word word)).map (·.value)

/-- The expression of a plural. -/
def pluralExpr? (parameter : String) (branches : List CompiledBranch) : Option Expr :=
  (wordValue? branches "other").map fun other =>
    let exact : List Argument :=
      if (exactPairs branches).isEmpty then [] else [.named "exact" (.dict (exactPairs branches))]
    let categories : List Argument :=
      (pluralCategories.filter (· != "other")).filterMap fun c =>
        (wordValue? branches c).map (.named c ·)
    .call "runtime.plural" true
      ([.positional (.name parameter), .positional localeName] ++ exact ++ categories ++
        [.named "other" other])

/-- The entries of the branches keyed by a word other than `other`. -/
def casePairs (branches : List CompiledBranch) : List Pair :=
  branches.filterMap fun b =>
    if b.key = Key.other then none else some (.mk (.literal b.key.text) b.value)

/-- The expression of a select. -/
def selectExpr? (parameter : String) (branches : List CompiledBranch) : Option Expr :=
  (wordValue? branches "other").map fun other =>
    .call "runtime.select" true
      [.positional (.name parameter), .positional (.dict (casePairs branches)),
       .named "other" other]

/-- The expressions of the nodes of a message, joined; a message without nodes is empty. -/
def joinAll : List Expr → Expr
  | [] => .literal ""
  | e :: rest => rest.foldl .join e

mutual

/-- The expression of a node. -/
def nodeExpr? (scope : Scope) : Node → Option Expr
  | .text value _ => some (.literal value)
  | .reference name _ => referenceExpr? scope name
  | .argument name kind skeleton _ => argumentExpr? scope name kind skeleton
  | .choice kind name branches _ =>
    (scope.parameter? name).bind fun parameter =>
      (branchExprs? scope branches).bind fun compiled =>
        match kind with
        | .plural => pluralExpr? parameter compiled
        | .select => selectExpr? parameter compiled

/-- The branches of a choice with their expressions. -/
def branchExprs? (scope : Scope) : List Branch → Option (List CompiledBranch)
  | [] => some []
  | .mk key message _ :: rest =>
    (nodeExprs? scope message).bind fun es =>
      (branchExprs? scope rest).map fun cs => ⟨key, joinAll es⟩ :: cs

/-- The expressions of the nodes of a message. -/
def nodeExprs? (scope : Scope) : List Node → Option (List Expr)
  | [] => some []
  | n :: rest => (nodeExpr? scope n).bind fun e => (nodeExprs? scope rest).map fun es => e :: es

end

/-- The expression of a message. -/
def messageExpr? (scope : Scope) (m : Message) : Option Expr := (nodeExprs? scope m).map joinAll

/-- The placeholders of a message that are formatted, in the order in which they are met. -/
def formattedPlaceholders? (scope : Scope) : Usages → Option (List Resolved)
  | [] => some []
  | (name, roles) :: rest =>
    if roles.plain then
      (scope.placeholder? name).bind fun p =>
        (formattedPlaceholders? scope rest).map fun ps =>
          if scope.formatsPlaceholder p then p :: ps else ps
    else formattedPlaceholders? scope rest

/-- The statements of the accessor of a message. -/
def bodyOf (scope : Scope) (m : Message) : Except Failure (List Statement) :=
  -- the statements stand in the order of first use
  let (usages, complete) := Usages.collect [] m
  if !complete then .error (.fault (.depthExceeded Walk.defaultDepth))
  else
    let statements? : Option (List Statement) :=
      (formattedPlaceholders? scope usages).bind fun ps =>
        (ps.mapM (formatStatement? scope)).bind fun formats =>
          (messageExpr? scope m).map fun e => formats ++ [.giveBack e]
    match statements? with
    | some statements => .ok statements
    | none => .error .missingKey

end Parlance.Code
