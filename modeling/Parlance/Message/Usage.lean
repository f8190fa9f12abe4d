import Parlance.Message.Traversal

/-!
# How the placeholders of messages are used

A placeholder may be written out, or select the branches of a plural or of a select, or be a date
or time. `Usage.collect` lists the names in a message in the order they are first met, each with
all its roles, and goes on from what earlier messages gave.
-/

namespace Parlance

/-- The roles in which a placeholder is used. -/
structure Roles where
  plain : Bool
  plural : Bool
  select : Bool
  dateTime : Bool
deriving DecidableEq, Repr

namespace Roles

/-- No role. -/
def none : Roles := ⟨false, false, false, false⟩

/-- The roles of either set. -/
def union (a b : Roles) : Roles :=
  ⟨a.plain || b.plain, a.plural || b.plural, a.select || b.select, a.dateTime || b.dateTime⟩

end Roles

/-- Names with their roles, in the order in which the names were first met. -/
abbrev Usages := List (String × Roles)

namespace Usages

/-- The roles of a name. -/
def rolesOf (usages : Usages) (name : String) : Roles :=
  match usages.find? (·.1 == name) with
  | some u => u.2
  | none => Roles.none

/-- Adds a use of a name. -/
def record : Usages → String → Roles → Usages
  | [], name, roles => [(name, roles)]
  | u :: rest, name, roles =>
    if u.1 = name then (u.1, u.2.union roles) :: rest else u :: record rest name roles

/-- The use that a part of a message is. -/
def ofPart? : Part → Option (String × Roles)
  | .node (.reference name _) => some (name, { Roles.none with plain := true })
  | .node (.choice .plural name _ _) => some (name, { Roles.none with plural := true })
  | .node (.choice .select name _ _) => some (name, { Roles.none with select := true })
  | .node (.argument name _ _ _) => some (name, { Roles.none with dateTime := true })
  | _ => none

/-- References and arguments hold nothing to walk into. -/
def isLeaf : PartClass → Bool
  | .reference => true
  | .argument => true
  | _ => false

/-- Adds the uses among some parts. -/
def recordParts (usages : Usages) (parts : List Part) : Usages :=
  (parts.filterMap ofPart?).foldl (fun us u => us.record u.1 u.2) usages

/-- Adds the uses in a message, and says whether the whole message could be walked through. -/
def collect (usages : Usages) (m : Message) : Usages × Bool :=
  let walk := Walk.ofMessage isLeaf Walk.defaultDepth m
  (usages.recordParts walk.visited, walk.complete)

end Usages

end Parlance
