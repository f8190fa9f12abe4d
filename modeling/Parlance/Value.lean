import Parlance.Assoc
import Parlance.Number.Double

/-!
# Data values

The values that bundle files and configuration files decode to. Objects keep their entries in
order; integers and floating-point numbers are different values even when they are equal numbers.
-/

namespace Parlance

/-- What a calendar value of a configuration file denotes. -/
inductive Moment where
  | date
  | dateTime
  | time
deriving DecidableEq, Repr

/-- A decoded value. -/
inductive Value where
  | null
  | bool (b : Bool)
  | int (i : Int)
  | float (x : Number.Double)
  | text (s : String)
  | bytes (b : List UInt8)
  | moment (kind : Moment) (iso : String)
  | list (items : List Value)
  | set (members : List Value)
  | object (entries : List (String × Value))
deriving Repr, Inhabited

namespace Value

mutual

/-- Whether two values are the same, with their entries and members in one order. -/
private def isSame : Value → Value → Bool
  | null, null => true
  | bool b, bool b' => b == b'
  | int i, int i' => i == i'
  | float x, float x' => x == x'
  | text s, text s' => s == s'
  | bytes b, bytes b' => b == b'
  | moment kind iso, moment kind' iso' => kind == kind' && iso == iso'
  | list items, list items' => allSame items items'
  | set members, set members' => allSame members members'
  | object entries, object entries' => entriesSame entries entries'
  | _, _ => false

/-- Whether two lists of values are the same. -/
private def allSame : List Value → List Value → Bool
  | [], [] => true
  | v :: vs, w :: ws => isSame v w && allSame vs ws
  | _, _ => false

/-- Whether two lists of entries are the same. -/
private def entriesSame : List (String × Value) → List (String × Value) → Bool
  | [], [] => true
  | (name, v) :: vs, (name', w) :: ws => name == name' && isSame v w && entriesSame vs ws
  | _, _ => false

end

mutual

/-- `isSame` tells equality. -/
private theorem isSame_iff_eq : (v w : Value) → (isSame v w = true ↔ v = w)
  | null, w | bool _, w | int _, w | float _, w | text _, w | bytes _, w | moment _ _, w => by
    cases w <;> simp [isSame]
  | list vs, w | set vs, w => by cases w <;> simp [isSame, allSame_iff_eq vs]
  | object es, w => by cases w <;> simp [isSame, entriesSame_iff_eq es]

/-- `allSame` tells equality. -/
private theorem allSame_iff_eq : (vs ws : List Value) → (allSame vs ws = true ↔ vs = ws)
  | [], ws => by cases ws <;> simp [allSame]
  | _ :: _, [] => by simp [allSame]
  | v :: vs, w :: ws => by simp [allSame, isSame_iff_eq v w, allSame_iff_eq vs ws]

/-- `entriesSame` tells equality. -/
private theorem entriesSame_iff_eq :
    (vs ws : List (String × Value)) → (entriesSame vs ws = true ↔ vs = ws)
  | [], ws => by cases ws <;> simp [entriesSame]
  | _ :: _, [] => by simp [entriesSame]
  | (_, v) :: vs, (_, w) :: ws => by
    simp [entriesSame, isSame_iff_eq v w, entriesSame_iff_eq vs ws]

end

instance : DecidableEq Value := fun v w => decidable_of_iff _ (isSame_iff_eq v w)

/-- The name under which a diagnostic mentions the kind of a value. -/
def kindName : Value → String
  | null => "NoneType"
  | bool _ => "bool"
  | int _ => "int"
  | float _ => "float"
  | text _ => "str"
  | bytes _ => "bytes"
  | moment .date _ => "date"
  | moment .dateTime _ => "datetime"
  | moment .time _ => "time"
  | list _ => "list"
  | set _ => "set"
  | object _ => "dict"

/-- Whether the value is `null`. -/
def isNull : Value → Bool
  | null => true
  | _ => false

/-- Whether a value says nothing: `null`, `false`, a zero, and what is empty. -/
def isVoid : Value → Bool
  | null => true
  | bool b => !b
  | int i => i == 0
  | float (.finite _ mantissa _) => mantissa == 0
  | float _ => false
  | text s => s.isEmpty
  | bytes b => b.isEmpty
  | moment .. => false
  | list items => items.isEmpty
  | set members => members.isEmpty
  | object entries => entries.isEmpty

/-- The string that the value is, if it is one. -/
def text? : Value → Option String
  | text s => some s
  | _ => none

/-- The entries of the object that the value is, if it is one. -/
def object? : Value → Option (Assoc Value)
  | object entries => some entries
  | _ => none

/-- The strings of a list that holds nothing else. -/
def texts? : Value → Option (List String)
  | list items => items.mapM text?
  | _ => none

/-- The value of a name in an object, absent and `null` alike being `none`. -/
def field? (entries : Assoc Value) (name : String) : Option Value :=
  match entries.get? name with
  | some null => none
  | other => other

end Value

end Parlance
