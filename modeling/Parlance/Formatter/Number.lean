import Parlance.Conventions.Compact
import Parlance.Formatter
import Parlance.Value

/-!
# Named number formats

A number placeholder names its format, such as `compactCurrency` or `decimalPattern`, and may set
options of it. `Formatter.number` writes a number in a format; `Formatter.numberOrText` falls back
to the plain text of the number, with a warning.
-/

namespace Parlance

open Parlance.Number

/-- A way to write numbers. -/
inductive NumberStyle where
  | compact
  | compactLong
  | compactCurrency
  | currency
  | decimal
  | decimalDigits
  | percentDigits
  | percent
  | scientific
deriving DecidableEq, Repr

namespace NumberStyle

/-- The style of a format name. -/
def ofName? : String → Option NumberStyle
  | "compact" => some compact
  | "compactLong" => some compactLong
  | "compactCurrency" => some compactCurrency
  | "compactSimpleCurrency" => some compactCurrency
  | "currency" => some currency
  | "simpleCurrency" => some currency
  | "decimalPattern" => some decimal
  | "decimalPatternDigits" => some decimalDigits
  | "decimalPercentPattern" => some percentDigits
  | "percentPattern" => some percent
  | "scientificPattern" => some scientific
  | _ => none

end NumberStyle

/-- The options of a number format; `none` stands for an option that is not given. -/
structure NumberOptions where
  currency : Option Value
  symbol : Option Value
  digits : Option Value
  pattern : Option Value

namespace NumberOptions

/-- The options among named parameters. -/
def ofParameters (parameters : Assoc Value) : NumberOptions :=
  { currency := Value.field? parameters "name"
    symbol := Value.field? parameters "symbol"
    digits := Value.field? parameters "decimalDigits"
    pattern := Value.field? parameters "customPattern" }

/-- The number of digits that a value asks for: a whole number, or one that is not positive and so
asks for none. -/
def digitCount : Value → Except NumberFault Int
  | .int i => .ok i
  | .bool b => .ok (if b then 1 else 0)
  | .float (.finite negative mantissa _) =>
    if negative || mantissa == 0 then .ok 0 else .error (.badOption "decimalDigits")
  | .float (.infinite true) => .ok 0
  | .float .notANumber => .ok 0
  | _ => .error (.badOption "decimalDigits")

/-- The number of digits for shortened numbers, none unless some are asked for. -/
def compactDigits (o : NumberOptions) : Except NumberFault Int :=
  match o.digits with
  | none => .ok 0
  | some v =>
    if v.isVoid then .ok 0
    else match v with
      | .int i => if longestText < i.natAbs then .error .unbounded else .ok i
      | .bool _ => .ok 1
      | _ => .error (.badOption "decimalDigits")

/-- The pattern of one's own, or another one if it is not given or empty. -/
def patternOr (o : NumberOptions) (default : Except NumberFault String) :
    Except NumberFault String :=
  match o.pattern with
  | none => default
  | some v =>
    if v.isVoid then default
    else match v with
      | .text s => .ok s
      | _ => .error (.badOption "customPattern")

/-- The pattern of one's own or another one, with the digits that are asked for. -/
def patternWithDigits (fits : Nat → Bool) (o : NumberOptions) (default : String) :
    Except NumberFault String := do
  let pattern ← o.patternOr (.ok default)
  match o.digits with
  | none => pure pattern
  | some v => withFractionDigits? fits pattern (← digitCount v)

/-- The symbol of one's own. -/
def symbolText (o : NumberOptions) : Except NumberFault (Option String) :=
  match o.symbol with
  | none => .ok none
  | some (.text s) => .ok (some s)
  | some _ => .error (.badOption "symbol")

/-- The code of the currency, or another one if it is not given or empty; a value that is no text is
a fault where the currency is written. -/
def currencyOr (o : NumberOptions) (default : String) : Except NumberFault String :=
  match o.currency with
  | none => .ok default
  | some v =>
    if v.isVoid then .ok default
    else match v with
      | .text s => .ok s
      | _ => .error (.badOption "name")

end NumberOptions

/-! ## Patterns of a language -/

namespace Conventions

/-- A pattern that a language has to have. -/
def required (pattern : Option String) : Except NumberFault String :=
  match pattern with
  | some p => .ok p
  | none => .error .noPattern

/-- A pattern of a language, or another one where the language has none. -/
def patternOr (pattern : Option String) (default : String) : String :=
  match pattern with
  | some p => if p.isEmpty then default else p
  | none => default

/-- The standard pattern of amounts of a currency. -/
def standardCurrencyPattern (c : Conventions) : String := patternOr c.currencyPattern "¤#,##0.00"

end Conventions

namespace Formatter

open Conventions

/-- An amount by a pattern. -/
def byPattern (f : Formatter) (pattern : String) (places : Places) (a : Amount) :
    Except NumberFault String := do
  let p ← NumberPattern.parse pattern
  let text ← p.render f.conventions.signs places a
  pure (String.ofList (unquote text))

/-- An amount of a currency by a pattern. -/
def currencyByPattern (f : Formatter) (pattern : String) (places : Places)
    (currency : Except NumberFault String) (a : Amount) : Except NumberFault String := do
  let p ← NumberPattern.parse pattern
  let parts ← p.parts? a
  let text ← p.renderParts f.conventions.signs places parts
  if text.contains Currency.sign then
    let code ← currency
    let category ← Currency.categoryOf f.rules parts.shown
    pure (String.ofList (unquote (Currency.dress f.conventions code category text)))
  else pure (String.ofList (unquote text))

/-- A shortened number. -/
def compactNumber (f : Formatter) (forms : List CompactForm) (o : NumberOptions) (a : Amount) :
    Except NumberFault String := do
  let (short, pattern) ← CompactForm.shorten f.rules forms o.compactDigits a
  let shown ← match pattern with
    | some p => .ok p
    | none => required f.conventions.decimalPattern
  f.byPattern shown .natural short

/-- A shortened amount of a currency. -/
def compactCurrency (f : Formatter) (o : NumberOptions) (a : Amount) :
    Except NumberFault String := do
  let forms := f.conventions.compactCurrency
  let (short, pattern) ← CompactForm.shorten f.rules forms o.compactDigits a
  let plain := (CompactForm.plainCurrencyPattern? forms).getD ""
  let chosen := match pattern with
    | some p => if p.toList.contains Currency.sign then p else plain
    | none => plain
  f.currencyByPattern chosen .natural (o.currencyOr f.defaultCurrency) short

section

variable (fits : Nat → Bool)

/-- An amount of a currency. Only the standard pattern, with neither symbol nor digits of one's own,
has the digits of the currency. -/
def inCurrency (f : Formatter) (o : NumberOptions) (q : Quantity) : Except NumberFault String := do
  let standard := required f.conventions.currencyPattern
  let currency := o.currencyOr f.defaultCurrency
  -- a pattern of its own goes before symbol and digits
  if o.pattern.isSome then
    f.currencyByPattern (← o.patternOr standard) .ofPattern currency (← q.amount?)
  else if o.symbol.isNone && o.digits.isNone then
    f.currencyByPattern (← standard) (.exactly (currencyDigits (← currency))) currency (← q.amount?)
  else
    let symbol ← o.symbolText
    let digits ← o.digits.mapM NumberOptions.digitCount
    let pattern ← Currency.customPattern fits f.conventions.standardCurrencyPattern symbol digits
    f.currencyByPattern pattern .ofPattern currency (← q.amount?)

/-- A quantity in a style. The pattern is made before the quantity is read. -/
def inStyle (f : Formatter) (style : NumberStyle) (o : NumberOptions) (q : Quantity) :
    Except NumberFault String :=
  let c := f.conventions
  match style with
  | .compact => do f.compactNumber c.compactShort o (← q.amount?)
  | .compactLong =>
    match c.compactLong with
    | some forms => do f.compactNumber forms o (← q.amount?)
    | none => .error .noCompactForms
  | .compactCurrency => do f.compactCurrency o (← q.amount?)
  | .currency => f.inCurrency fits o q
  | .decimal => do f.byPattern (← o.patternOr (required c.decimalPattern)) .ofPattern (← q.amount?)
  | .decimalDigits => do
    let pattern ← o.patternWithDigits fits (patternOr c.decimalPattern "#,##0.###")
    f.byPattern pattern .ofPattern (← q.amount?)
  | .percentDigits => do
    let pattern ← o.patternWithDigits fits (patternOr c.percentPattern "#,##0%")
    f.byPattern pattern .ofPattern (← q.amount?)
  | .percent => do f.byPattern (← o.patternOr (required c.percentPattern)) .ofPattern (← q.amount?)
  | .scientific => do
    f.byPattern (← o.patternOr (required c.scientificPattern)) .ofPattern (← q.amount?)

/-- A quantity in a named format. -/
def number (f : Formatter) (format : String) (o : NumberOptions) (q : Quantity) :
    Except NumberFault String :=
  match NumberStyle.ofName? format with
  | some style => f.inStyle fits style o q
  | none => .error (.unknownFormat format)

/-- A quantity in a named format for a locale, or its plain text, with a warning. -/
def numberOrText (source : LocaleSource) (code format : String) (o : NumberOptions) (q : Quantity) :
    Logged NumberFault String := do
  let f ← create source code
  match f.number fits format o q with
  | .ok text => pure text
  | .error fault =>
    if fault.isRecoverable then do
      Logged.log ⟨.warning, .formatting,
        s!"Number formatting failed for '{q.text}' with format '{format}': {fault.message}"⟩
      pure q.text
    else .throw fault

end

end Formatter

end Parlance
