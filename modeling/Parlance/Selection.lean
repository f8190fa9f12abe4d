import Parlance.Assoc
import Parlance.Plural
import Parlance.Value.Display

/-!
# Choosing a branch

How a generated accessor chooses among the branches of a plural or a selection. A plural takes the
branch of an exact number that equals the count, else the branch of the count's category, else the
`other` branch; a selection takes the branch whose key is the text of the choice, else `other`.
-/

namespace Parlance

open Parlance.Number

/-- The branches of a plural, as texts. -/
structure PluralForms where
  exact : List (Int × String)
  categories : List (PluralCategory × String)
  other : String
deriving DecidableEq, Repr

namespace PluralForms

/-- The form of an exact number that equals the count, and of several the last one; a count that
cannot be compared with any is a fault if there are such forms. -/
def exactForm? (forms : PluralForms) (n : Quantity) : Except NumberFault (Option String) :=
  if !forms.exact.isEmpty && !n.isComparable then .error .notNumeric
  else .ok ((forms.exact.reverse.find? fun form => n.eqInt form.1).map (·.2))

/-- The form of a category. -/
def categoryForm? (forms : PluralForms) (category : PluralCategory) : Option String :=
  (forms.categories.find? (·.1 == category)).map (·.2)

/-- The form for a count in a locale. A name that is no category has the form of `other`. -/
def choose (forms : PluralForms) (data : PluralData) (code : String) (n : Quantity) :
    Except NumberFault String := do
  match ← forms.exactForm? n with
  | some form => pure form
  | none =>
    let name ← data.categoryOf code n
    pure (((PluralCategory.ofName? name).bind forms.categoryForm?).getD forms.other)

end PluralForms

/-- What a selection is made by. -/
inductive Choice where
  | text (s : String)
  | value (v : Value)
  | quantity (q : Quantity)

namespace Choice

/-- The text by which a choice is looked up. -/
def key : Choice → String
  | text s => s
  | value v => v.display
  | quantity q => q.text

/-- The case whose key is the text of the choice, or `other`. -/
def choose (choice : Choice) (cases : Assoc String) (other : String) : String :=
  (cases.get? choice.key).getD other

end Choice

end Parlance
