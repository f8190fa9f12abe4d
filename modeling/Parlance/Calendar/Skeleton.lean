import Parlance.Calendar.Pattern

/-!
# Date skeletons

A skeleton names the fields of a date without their order or what stands between them. A language
has patterns for some skeletons, and `DateSkeleton.closest?` picks among them the one for the same
fields whose lengths differ least from those asked for.
-/

namespace Parlance

namespace DateSkeleton

/-- The length of a field in a skeleton, of several the last, and 0 if the field is absent. -/
def width (skeleton : List DatePiece) (letter : Char) : Nat :=
  skeleton.foldl (fun found piece =>
    match piece with
    | .field l n => if l = letter then n else found
    | .literal _ => found) 0

/-- How far apart two lengths of a field are: numbers and names of months are furthest apart, and a
field that only one of two skeletons has keeps them from being compared. -/
def fieldDistance? (letter : Char) (asked offered : Nat) : Option Nat :=
  if asked = offered then some 0
  else if asked = 0 || offered = 0 then none
  else if letter = 'M' && ((2 < asked && offered ≤ 2) || (asked ≤ 2 && 2 < offered)) then some 0x100
  else some (max asked offered - min asked offered)

/-- How far apart two skeletons of the same fields are. -/
def distance? (asked offered : List DatePiece) : Option Nat :=
  DatePattern.fieldLetters.foldl (fun total letter =>
    match total, fieldDistance? letter (width asked letter) (width offered letter) with
    | some m, some n => some (m + n)
    | _, _ => none) (some 0)

/-- A skeleton with each field that no offer has in one of the given ways, replaced by the field
that is meant by it, or left out. -/
def simplify (offers : List String) (skeleton : List Char) : List Char :=
  let known (letter : Char) : Bool := offers.any fun offer => offer.toList.contains letter
  skeleton.filterMap fun letter =>
    if known letter then some letter
    else if letter = 'z' then some 'v'
    else if letter = 'k' then some 'H'
    else if letter = 'K' then some 'h'
    else if letter = 'a' || letter = 'b' then none
    else some letter

/-- The offer that is closest, and the first of several in their order. -/
def best (asked : List DatePiece) : List String → Option (String × Nat)
  | [] => none
  | offer :: rest =>
    match distance? asked (DatePattern.pieces offer), best asked rest with
    | none, later => later
    | some n, none => some (offer, n)
    | some n, some (other, m) => if m < n then some (other, m) else some (offer, n)

/-- The offered skeleton that is closest to one that is asked for. -/
def closest? (offers : List String) (skeleton : String) : Option String :=
  let sorted := (offers.filter (!·.isEmpty)).mergeSort fun a b => decide (a ≤ b)
  let asked := DatePattern.piecesFrom none (simplify sorted skeleton.toList)
  (best asked sorted).map (·.1)

/-- The pattern of a language for a skeleton: its own, or that of the closest skeleton. -/
def pattern? (patterns : Assoc String) (skeleton : String) : Option String :=
  match patterns.get? skeleton with
  | some pattern => some pattern
  | none => (closest? patterns.keys skeleton).bind patterns.get?

end DateSkeleton

end Parlance
