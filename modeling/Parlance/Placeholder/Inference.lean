import Parlance.Message.Usage
import Parlance.Placeholder

/-!
# Inference of placeholder types

The type of a placeholder follows from its declaration and from all its uses in the messages of all
locales. A name that selects a plural is a number, one that selects a case is a string, and one in
a date or time argument is a date; any other has its declared type or none in particular. At most
one of these three roles is allowed, a declared type must suit the role, and a format must suit the
type. `inferPlaceholders` lists the declared placeholders in the order of declaration and after them
the others by name.
-/

namespace Parlance

/-- A role that excludes the others. -/
inductive Role where
  | plural
  | select
  | dateTime
deriving DecidableEq, Repr

namespace Role

/-- The word for a role. -/
def name : Role → String
  | plural => "plural"
  | select => "select"
  | dateTime => "datetime"

/-- The declared types that a role allows. -/
def allowed : Role → List PlaceholderType
  | plural => [.num, .int]
  | select => [.string]
  | dateTime => [.dateTime]

/-- The type of a placeholder in a role that is declared without one. -/
def defaultType : Role → PlaceholderType
  | plural => .num
  | select => .string
  | dateTime => .dateTime

end Role

namespace Roles

/-- The roles that exclude each other, in the order of their words. -/
def exclusive (r : Roles) : List Role :=
  (if r.dateTime then [.dateTime] else []) ++ (if r.plural then [.plural] else []) ++
    (if r.select then [.select] else [])

end Roles

namespace Resolved

/-- The type of a declared placeholder with some roles. -/
def typeFor (key : String) (d : Declared) (roles : Roles) : Except Fault PlaceholderType :=
  match roles.exclusive with
  | [] => .ok (d.type.getD .object)
  | [role] =>
    match d.type with
    | none => .ok role.defaultType
    | some t =>
      if role.allowed.contains t then .ok t
      else .error (.invalidType key d.name t.name role.name (role.allowed.map (·.name)))
  | several => .error (.conflictingUsage key d.name (several.map (·.name)))

/-- Refuses a format that is not known. -/
def checkFormat (key : String) (p : Resolved) : Except Fault Resolved :=
  if p.requiresDateFormatting then
    match p.format with
    | some format =>
      if !p.isCustomDateFormat && !p.hasValidDateFormat then
        .error (.invalidDateFormat key p.name format)
      else .ok p
    | none => .ok p
  else if p.requiresNumberFormatting && !p.hasValidNumberFormat then
    .error (.invalidNumberFormat key p.name (p.format.getD ""))
  else .ok p

/-- A declared placeholder with its type settled by its roles. -/
def ofRoles (key : String) (d : Declared) (roles : Roles) (synthesized : Bool) :
    Except Fault Resolved :=
  match typeFor key d roles with
  | .error e => .error e
  | .ok type =>
    checkFormat key
      ⟨d, type, roles.plural, roles.select, roles.dateTime, type == .dateTime && roles.plain,
        synthesized⟩

end Resolved

/-- The placeholders of a message, and those that locales declare anew. -/
structure Inferred (κ : Type) where
  template : List Resolved
  overrides : List (κ × List Resolved)
deriving DecidableEq

namespace Inferred

/-- The uses in some messages, each walked through to its end. -/
def usagesOf : Usages → List Message → Except Fault Usages
  | usages, [] => .ok usages
  | usages, m :: rest =>
    let (usages, complete) := usages.collect m
    if complete then usagesOf usages rest else .error (.depthExceeded Walk.defaultDepth)

/-- The names that are used but not declared, in order. -/
def undeclaredNames (declared : List Declared) (usages : Usages) : List String :=
  ((usages.map (·.1)).filter fun n => !declared.any (·.name == n)).mergeSort
    fun a b => decide (a ≤ b)

/-- The placeholders of the template. -/
def templateOf (key : String) (declared : List Declared) (usages : Usages) :
    Except Fault (List Resolved) :=
  (declared.mapM fun d => Resolved.ofRoles key d (usages.rolesOf d.name) false).bind fun first =>
  ((undeclaredNames declared usages).mapM fun n =>
    Resolved.ofRoles key (.bare n) (usages.rolesOf n) true).map fun second => first ++ second

/-- A placeholder that a locale declares anew. It keeps the type of the template's, and only its
own type, if it has one, is held against the roles. -/
def overrideOf (key : String) (usages : Usages) (base : Resolved) (d : Declared) :
    Except Fault Resolved :=
  (Resolved.ofRoles key { d with type := some (d.type.getD base.type) } (usages.rolesOf d.name)
    base.synthesized).map fun r => { r with type := base.type }

/-- The placeholders that a locale declares anew, those that the template lacks left out. -/
def overridesOf (key : String) (usages : Usages) (template : List Resolved) :
    List Declared → Except Fault (List Resolved)
  | [] => .ok []
  | d :: rest =>
    match template.find? (·.name == d.name) with
    | none => overridesOf key usages template rest
    | some base =>
      (overrideOf key usages base d).bind fun r =>
        (overridesOf key usages template rest).map fun rs => r :: rs

/-- The placeholders that all locales declare anew, locales without any left out. -/
def allOverrides {κ : Type} (key : String) (usages : Usages) (template : List Resolved) :
    List (κ × List Declared) → Except Fault (List (κ × List Resolved))
  | [] => .ok []
  | (locale, declared) :: rest =>
    (overridesOf key usages template declared).bind fun rs =>
      (allOverrides key usages template rest).map fun all =>
        if rs.isEmpty then all else (locale, rs) :: all

end Inferred

/-- The placeholders of a message: those that the template declares, those that locales declare
anew, and those that only the messages use. -/
def inferPlaceholders {κ : Type} (key : String) (declared : List Declared)
    (localeDeclared : List (κ × List Declared)) (messages : List Message) :
    Except Fault (Inferred κ) :=
  (Inferred.usagesOf [] messages).bind fun usages =>
  (Inferred.templateOf key declared usages).bind fun template =>
  (Inferred.allOverrides key usages template localeDeclared).map fun overrides =>
    ⟨template, overrides⟩

end Parlance
