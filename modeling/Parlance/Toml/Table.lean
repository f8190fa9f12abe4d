import Parlance.Value

/-!
# Tables of TOML

The tables of a document while it is read. A path of names leads through tables, and through the
last table of each array of tables on the way. Some paths are closed (`Tables.closed`): the values
that were written in one piece, with everything below them. Others are taken (`Tables.taken`): the
tables with a header of their own, and once the next header comes, those that dotted names made.
-/

namespace Parlance.Toml

/-- Names that lead to a table or value. -/
abbrev Path := List String

/-- The entries of a document so far, and which of its paths are closed or taken. -/
structure Tables where
  entries : Assoc Value
  closed : List Path
  taken : List Path
  /-- The paths of tables that dotted names made since the last header. -/
  pending : List Path
deriving Repr

/-- Changes the entries at the end of a path, making tables on the way as they are needed; `none` if
a value is in the way. With `throughArrays` the path goes through the last items of arrays. -/
def changeAt (throughArrays : Bool) (change : Assoc Value → Option (Assoc Value)) :
    Path → Assoc Value → Option (Assoc Value)
  | [], entries => change entries
  | name :: path, entries =>
    match entries.get? name with
    | none =>
      (changeAt throughArrays change path []).map fun inner => entries.set name (.object inner)
    | some (.object inner) =>
      (changeAt throughArrays change path inner).map fun inner => entries.set name (.object inner)
    | some (.list items) =>
      -- an array of tables stands for its last one
      match throughArrays, items.reverse with
      | true, .object inner :: before =>
        (changeAt throughArrays change path inner).map fun inner =>
          entries.set name (.list (before.reverse ++ [.object inner]))
      | _, _ => none
    | some _ => none

/-- Adds an entry that must be new. -/
def addNew (name : String) (value : Value) (entries : Assoc Value) : Option (Assoc Value) :=
  if (entries.get? name).isSome then none else some (entries.set name value)

/-- Adds an empty table to an array of tables. -/
def addTable (name : String) (entries : Assoc Value) : Option (Assoc Value) :=
  match entries.get? name with
  | none => some (entries.set name (.list [.object []]))
  | some (.list items) => some (entries.set name (.list (items ++ [.object []])))
  | some _ => none

/-- Whether a value is a table or an array. -/
def isCompound : Value → Bool
  | .list _ => true
  | .object _ => true
  | _ => false

namespace Tables

/-- No tables. -/
def empty : Tables := ⟨[], [], [], []⟩

/-- Whether a path is below a closed one or is one. -/
def isClosed (t : Tables) (path : Path) : Bool := t.closed.any fun c => c.isPrefixOf path

/-- Takes the tables that dotted names made. -/
def settle (t : Tables) : Tables := { t with taken := t.taken ++ t.pending, pending := [] }

/-- Forgets which paths are closed or taken at a path and below. -/
def reopen (t : Tables) (path : Path) : Tables :=
  { t with
    closed := t.closed.filter fun c => !path.isPrefixOf c
    taken := t.taken.filter fun c => !path.isPrefixOf c }

/-- The header of a table. -/
def openTable (t : Tables) (path : Path) : Option Tables :=
  let t := t.settle
  if t.taken.contains path || t.isClosed path then none
  else
    (changeAt true some path t.entries).map fun entries =>
      { t with entries := entries, taken := t.taken ++ [path] }

/-- The header of an item of an array of tables. -/
def openItem (t : Tables) (path : Path) : Option Tables :=
  let t := t.settle
  if t.isClosed path then none
  else
    -- a new item starts empty, so what the item before it closed or took is free again
    let t := t.reopen path
    (changeAt true (addTable (path.getLast?.getD "")) path.dropLast t.entries).map fun entries =>
      { t with entries := entries, taken := t.taken ++ [path] }

/-- The paths of the tables that a dotted name leads through. -/
def pathsOn (header name : Path) : List Path :=
  (List.range (name.length - 1)).map fun n => header ++ name.take (n + 1)

/-- An entry below a header. -/
def addEntry (t : Tables) (header name : Path) (value : Value) : Option Tables :=
  let through := pathsOn header name
  let parent := header ++ name.dropLast
  -- a dotted name may not lead through a table that has a header of its own
  if through.any t.taken.contains || t.isClosed parent then none
  else
    (changeAt true (addNew (name.getLast?.getD "") value) parent t.entries).map fun entries =>
      { t with
        entries := entries
        pending := t.pending ++ through
        closed := if isCompound value then t.closed ++ [header ++ name] else t.closed }

/-- An entry of an inline table, whose arrays are never gone through. -/
def addInline (t : Tables) (name : Path) (value : Value) : Option Tables :=
  if t.isClosed name then none
  else
    (changeAt false (addNew (name.getLast?.getD "") value) name.dropLast t.entries).map
      fun entries =>
        { t with
          entries := entries
          closed := if isCompound value then t.closed ++ [name] else t.closed }

end Tables

end Parlance.Toml
