import Parlance.Code.Body
import Parlance.Selection

/-!
# The value of an expression

What an expression of a generated accessor is when it is run: literals are themselves, a sum is the
two texts joined, and a call of the plural or the select function chooses among the texts of its
arguments, all of which are evaluated first. Every other expression, such as the reference to a
parameter, has the text that an `Environment` gives it.
-/

namespace Parlance.Code

open Parlance.Number

/-- What an accessor is run with. -/
structure Environment where
  /-- The locale data that the plural function asks. -/
  plurals : PluralData
  /-- The locale of the accessor. -/
  locale : String
  /-- A parameter as a count. -/
  count : String → Quantity
  /-- A parameter as what a selection is made by. -/
  choice : String → Choice
  /-- The text of an expression that is neither a literal, a sum, nor a choice. -/
  text : Expr → String

/-- Why an expression has no value. -/
inductive EvaluationFault where
  /-- The expression is no text, or a call lacks an argument. -/
  | illTyped
  /-- A count is refused. -/
  | number (f : NumberFault)

/-- The numbers and the texts of the entries of a dictionary whose keys are numbers. -/
def exactForms (entries : List (Key × String)) : List (Int × String) :=
  entries.filterMap fun e => e.1.value?.map fun n => (Int.ofNat n, e.2)

/-- The texts that are passed for categories; a text for `other` is passed as the one for the
counts of no category. -/
def categoryForms (texts : Assoc String) : List (PluralCategory × String) :=
  (PluralCategory.all.filter (· != .other)).filterMap fun c => (texts.get? c.name).map (c, ·)

/-- The words and the texts of the entries of a dictionary whose keys are texts. -/
def caseForms (entries : List (Key × String)) : Assoc String :=
  entries.filterMap fun
    | (.word w, s) => some (w, s)
    | (.exact _, _) => none

/-- The plural function: the form of a count, given its exact forms and the texts by keyword. -/
def pluralCall (data : PluralData) (locale : String) (count : Quantity)
    (exact : List (Key × String)) (texts : Assoc String) : Except EvaluationFault String :=
  match texts.get? "other" with
  | none => .error .illTyped
  | some other =>
    ((⟨exactForms exact, categoryForms texts, other⟩ : PluralForms).choose data locale
      count).mapError .number

section

variable (env : Environment)

mutual

/-- The text of an expression. -/
def evaluate : Expr → Except EvaluationFault String
  | .literal s => .ok s
  | .name s => .ok (env.text (.name s))
  | .join left right =>
    (evaluate left).bind fun a => (evaluate right).bind fun b => .ok (a ++ b)
  | .call function stacked arguments =>
    if function = "runtime.plural" then
      match arguments with
      | .mk none (.name p) :: .mk none (.name l) :: named =>
        if l = "self.locale_name" then
          (evaluateNamed named).bind fun r =>
            pluralCall env.plurals env.locale (env.count p) r.1 r.2
        else .error .illTyped
      | _ => .error .illTyped
    else if function = "runtime.select" then
      match arguments with
      | [.mk none (.name p), .mk none (.dict entries), .mk (some k) value] =>
        if k = "other" then
          (evaluateEntries entries).bind fun cases =>
            (evaluate value).bind fun other =>
              .ok ((env.choice p).choose (caseForms cases) other)
        else .error .illTyped
      | _ => .error .illTyped
    else .ok (env.text (.call function stacked arguments))
  | _ => .error .illTyped

/-- The entries of the dictionary and the texts among some arguments by keyword. -/
def evaluateNamed :
    List Argument → Except EvaluationFault (List (Key × String) × Assoc String)
  | [] => .ok ([], [])
  | .mk (some keyword) value :: rest =>
    if keyword = "exact" then
      match value with
      | .dict entries =>
        (evaluateEntries entries).bind fun exact =>
          (evaluateNamed rest).bind fun r => .ok (exact ++ r.1, r.2)
      | _ => .error .illTyped
    else
      (evaluate value).bind fun s =>
        (evaluateNamed rest).bind fun r => .ok (r.1, (keyword, s) :: r.2)
  | .mk none _ :: _ => .error .illTyped

/-- The keys and texts of the entries of a dictionary. -/
def evaluateEntries : List Pair → Except EvaluationFault (List (Key × String))
  | [] => .ok []
  | .mk (.number n) value :: rest =>
    (evaluate value).bind fun s =>
      (evaluateEntries rest).bind fun r => .ok ((.exact n, s) :: r)
  | .mk (.literal k) value :: rest =>
    (evaluate value).bind fun s =>
      (evaluateEntries rest).bind fun r => .ok ((.word k, s) :: r)
  | .mk _ _ :: _ => .error .illTyped

end

end

/-! ## Equations -/

variable {env : Environment}

/-- A call of `runtime.plural` evaluates its arguments by keyword and then chooses by the count. -/
theorem evaluate_plural (stacked : Bool) (p : String) (named : List Argument) :
    evaluate env (.call "runtime.plural" stacked
      (.positional (.name p) :: .positional (.name "self.locale_name") :: named)) =
      (evaluateNamed env named).bind fun r =>
        pluralCall env.plurals env.locale (env.count p) r.1 r.2 := by
  rw [Argument.positional, Argument.positional, evaluate, if_pos rfl, if_pos rfl]

/-- A call of `runtime.select` evaluates the cases, then `other`, and then chooses. -/
theorem evaluate_select (stacked : Bool) (p : String) (entries : List Pair) (other : Expr) :
    evaluate env (.call "runtime.select" stacked
      [.positional (.name p), .positional (.dict entries), .named "other" other]) =
      (evaluateEntries env entries).bind fun cases =>
        (evaluate env other).bind fun o => .ok ((env.choice p).choose (caseForms cases) o) := by
  rw [Argument.positional, Argument.positional, Argument.named, evaluate, if_neg (by decide),
    if_pos rfl, if_pos rfl]

/-- Other calls (`evaluate`) have the text that the environment gives them. -/
theorem evaluate_call {function : String} (hplural : function ≠ "runtime.plural")
    (hselect : function ≠ "runtime.select") (stacked : Bool) (arguments : List Argument) :
    evaluate env (.call function stacked arguments) =
      .ok (env.text (.call function stacked arguments)) := by
  unfold evaluate
  rw [if_neg hplural, if_neg hselect]

/-- The argument `exact` holds the forms for numbers. -/
theorem evaluateNamed_exact (entries : List Pair) (rest : List Argument) :
    evaluateNamed env (.named "exact" (.dict entries) :: rest) =
      (evaluateEntries env entries).bind fun exact =>
        (evaluateNamed env rest).bind fun r => .ok (exact ++ r.1, r.2) := by
  rw [Argument.named, evaluateNamed, if_pos rfl]

/-- Every other argument by keyword (`evaluateNamed`) holds the form of a category. -/
theorem evaluateNamed_text {keyword : String} (h : keyword ≠ "exact") (value : Expr)
    (rest : List Argument) :
    evaluateNamed env (.named keyword value :: rest) =
      (evaluate env value).bind fun s =>
        (evaluateNamed env rest).bind fun r => .ok (r.1, (keyword, s) :: r.2) := by
  cases value <;> rw [Argument.named, evaluateNamed, if_neg h] <;> exact nofun

/-! ## Sums -/

/-- The texts of some expressions joined. -/
def evaluateAll (env : Environment) : List Expr → Except EvaluationFault String
  | [] => .ok ""
  | e :: rest => (evaluate env e).bind fun a => (evaluateAll env rest).bind fun b => .ok (a ++ b)

/-- A sum that is built from the left (`join`) has the texts of its operands in order. -/
private theorem evaluate_foldl_join (e : Expr) (rest : List Expr) :
    evaluate env (rest.foldl .join e) =
      (evaluate env e).bind fun a => (evaluateAll env rest).bind fun b => .ok (a ++ b) := by
  induction rest generalizing e with
  | nil =>
    rw [List.foldl_nil]
    cases h : evaluate env e <;> simp [evaluateAll, Except.bind]
  | cons f rest ih =>
    rw [List.foldl_cons, ih, evaluate, evaluateAll]
    cases evaluate env e <;> cases evaluate env f <;> cases evaluateAll env rest <;>
      simp [Except.bind, String.append_assoc]

/-- The sum of the expressions of a message has their texts joined (`joinAll`). -/
theorem evaluate_joinAll (es : List Expr) : evaluate env (joinAll es) = evaluateAll env es := by
  cases es with
  | nil => rfl
  | cons e rest => rw [joinAll, evaluate_foldl_join, evaluateAll]

end Parlance.Code
