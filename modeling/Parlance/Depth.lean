import Parlance.Log

/-!
# Limits on nesting

A `DepthGuard` counts how deeply a construct is nested and refuses to go deeper than its limit.
A limit is never greater than what the call stack bears (`DepthGuard.clamp`).
-/

namespace Parlance

/-- How deeply calls may be nested. -/
def callLimit : Int := 1000

/-- Refusal to go deeper than a limit. -/
structure DepthExceeded where
  limit : Int
deriving DecidableEq, Repr

/-- A depth and its limit. -/
structure DepthGuard where
  limit : Int
  depth : Int
deriving DecidableEq, Repr

namespace DepthGuard

/-- The limit that is used for a requested one, with a warning if they differ. -/
def clamp (requested reserve : Int) : Int × List LogRecord :=
  let greatest := callLimit - reserve
  if greatest < requested then
    (greatest,
      [⟨.warning, .depthGuard,
        s!"Requested depth {requested} exceeds Python recursion limit ({callLimit}). " ++
          s!"Clamping to {greatest} to prevent RecursionError."⟩])
  else (requested, [])

/-- The calls that are kept in reserve unless said otherwise. -/
def defaultReserve : Int := 50

/-- The limit of a guard that is asked for one. -/
def effectiveLimit (requested : Int) : Int := (clamp requested defaultReserve).1

/-- A guard at depth zero. -/
def ofLimit (requested : Int) : DepthGuard := ⟨effectiveLimit requested, 0⟩

/-- Whether the limit is reached. -/
def isExceeded (g : DepthGuard) : Bool := g.limit ≤ g.depth

/-- Refuses when the limit is reached. -/
def check (g : DepthGuard) : Except DepthExceeded Unit :=
  if g.isExceeded then .error ⟨g.limit⟩ else .ok ()

/-- Goes one level deeper; a refusal leaves the guard as it was. -/
def enter (g : DepthGuard) : Except DepthExceeded DepthGuard :=
  if g.isExceeded then .error ⟨g.limit⟩ else .ok { g with depth := g.depth + 1 }

/-- Comes back from a level. -/
def leave (g : DepthGuard) : DepthGuard := { g with depth := g.depth - 1 }

/-- Coming back (`leave`) from where one went gives the guard back. -/
theorem leave_of_enter {g h : DepthGuard} (e : g.enter = .ok h) : h.leave = g := by
  unfold enter at e
  split at e
  · cases e
  · cases e
    simp [leave]

end DepthGuard

end Parlance
