import Parlance.Text.Pieces

/-!
# Paths

A path is a root and the parts after it. Empty parts and `.` vanish when a path is read, and `..`
stays. A path may start with no slash, with one, or with exactly two, which are kept; three and
more are one. Joining to a path that has a root gives that path.
-/

namespace Parlance

open Parlance.Text

/-- A path. -/
structure Path where
  root : String
  parts : List String
deriving DecidableEq, Repr, Inhabited

namespace Path

/-- The root of a path text. -/
def rootOf (s : List Char) : String :=
  let slashes := (s.takeWhile (· == '/')).length
  if slashes = 0 then "" else if slashes = 2 then "//" else "/"

/-- The path of a text. -/
def ofString (s : String) : Path :=
  ⟨rootOf s.toList, (cutAt '/' s).filter fun p => !p.isEmpty && p != "."⟩

/-- The text of a path; the empty path is `.`. -/
def toString (p : Path) : String :=
  if p.root.isEmpty && p.parts.isEmpty then "." else p.root ++ "/".intercalate p.parts

/-- Whether a path starts at a root. -/
def isAbsolute (p : Path) : Bool := !p.root.isEmpty

/-- One path after another. -/
def join (a b : Path) : Path := if b.isAbsolute then b else ⟨a.root, a.parts ++ b.parts⟩

/-- The last part, empty if there is none. -/
def name (p : Path) : String := p.parts.getLast?.getD ""

/-- The path without its last part; a path without parts is its own parent. -/
def parent (p : Path) : Path := ⟨p.root, p.parts.dropLast⟩

/-- Where a part leads from a path: up if it is `..`, and down if not. -/
def enter (p : Path) (part : String) : Path :=
  if part = ".." then p.parent else ⟨p.root, p.parts ++ [part]⟩

/-- The paths above a path, the nearest first. -/
def ancestors (p : Path) : List Path :=
  (List.range p.parts.length).reverse.map fun n => ⟨p.root, p.parts.take n⟩

/-- The first part of a path below another. -/
def stepBelow? (base p : Path) : Option String :=
  if base.root = p.root && base.parts.isPrefixOf p.parts then p.parts[base.parts.length]?
  else none

/-- The text of one path after another, both given as texts. -/
def joinText (a b : String) : String := (join (ofString a) (ofString b)).toString

/-- The last part of a path text. -/
def nameOf (s : String) : String := (ofString s).name

end Path

end Parlance
