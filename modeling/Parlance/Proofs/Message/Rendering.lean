import Parlance.Message.Tree
import Parlance.Selection

/-!
# Rendering messages

The text of a message for some arguments, straight from its tree. A plural is the branch of the
exact number that equals the count, else the branch of the count's category, else the `other`
branch; a selection is the branch whose key is the text of the choice, else the `other` branch.
Only the branch that is chosen is rendered.
-/

namespace Parlance.Rendering

open Parlance.Number

/-- What a message is rendered with, by the names of its placeholders. -/
structure Arguments where
  /-- A placeholder as a count. -/
  count : String → Quantity
  /-- A placeholder as what a selection is made by. -/
  choice : String → Choice
  /-- The text of a reference. -/
  reference : String → String
  /-- The text of a date or time. -/
  argument : String → ArgumentKind → Option String → String

/-- The form that a key selects. -/
def formOf {α : Type} (forms : List (Key × α)) (key : Key) : Option α :=
  (forms.find? (·.1 == key)).map (·.2)

/-- The form of the exact number that equals a count. -/
def exactFormOf {α : Type} (forms : List (Key × α)) (count : Quantity) : Option α :=
  (forms.find? fun form => form.1.value?.any fun n => count.eqInt (Int.ofNat n)).map (·.2)

/-- The form of a word, or else that of `other`. -/
def wordFormOf (forms : List (Key × Except NumberFault String)) (word : String) :
    Except NumberFault String :=
  ((formOf forms (.word word)).or (formOf forms .other)).getD (.ok "")

/-- The form of a count in a locale: that of the name that locale data has for its category, unless
a number equals the count. -/
def pluralFormOf (data : PluralData) (locale : String) (count : Quantity)
    (forms : List (Key × Except NumberFault String)) : Except NumberFault String :=
  match exactFormOf forms count with
  | some form => form
  | none => (data.categoryOf locale count).bind (wordFormOf forms)

section

variable (data : PluralData) (locale : String) (arguments : Arguments)

mutual

/-- The text of a node. -/
def renderNode : Node → Except NumberFault String
  | .text value _ => .ok value
  | .reference name _ => .ok (arguments.reference name)
  | .argument name kind skeleton _ => .ok (arguments.argument name kind skeleton)
  | .choice .plural name branches _ =>
    pluralFormOf data locale (arguments.count name) (renderBranches branches)
  | .choice .select name branches _ =>
    wordFormOf (renderBranches branches) (arguments.choice name).key

/-- The keys of branches with the texts of their messages. -/
def renderBranches : List Branch → List (Key × Except NumberFault String)
  | [] => []
  | .mk key message _ :: rest => (key, render message) :: renderBranches rest

/-- The text of a message. -/
def render : List Node → Except NumberFault String
  | [] => .ok ""
  | n :: rest => (renderNode n).bind fun a => (render rest).bind fun b => .ok (a ++ b)

end

end

end Parlance.Rendering
