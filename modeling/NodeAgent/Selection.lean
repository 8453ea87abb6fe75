/-
This file selects the snapshot to restore a volume from: every destination is asked for its
nearest snapshot, and of the answers the nearest counts, at equal distance the destination that
stands first. A destination that fails to answer counts as having no snapshot.
-/

import NodeAgent.Backend

namespace NodeAgent

/-- A snapshot with the destination that reported it. -/
structure Source where
  destination : Destination
  snapshot : Snapshot
deriving DecidableEq, Inhabited

namespace Selection

/-- The nearest of the snapshots that destinations reported, in their order. -/
def choose (reports : List (Destination × Option Snapshot)) (time : Instant) : Option Source :=
  nearest? (·.snapshot.distanceTo time)
    (reports.filterMap fun report => report.2.map (Source.mk report.1))

/-- Asks one destination for its nearest snapshot of a volume. -/
def query (volume : String) (time : Instant) (destination : Destination) :
    Dialogue backends (Option Snapshot) :=
  @Dialogue.ask backends _ (.repository (.findNearest destination volume time)) fun answer =>
    match (answer : Except Failure (Option Snapshot)) with
    | .ok found => .done found
    | .error _ => .done none

/-- Asks destinations one after another. -/
def queryAll (volume : String) (time : Instant) :
    List Destination → Dialogue backends (List (Destination × Option Snapshot))
  | [] => .done []
  | destination :: rest => do
    let found ← query volume time destination
    let reports ← queryAll volume time rest
    return (destination, found) :: reports

/-- Selects the snapshot of a volume that is nearest to a time. -/
def select (volume : String) (destinations : List Destination) (time : Instant) :
    Dialogue backends (Option Source) := do
  return choose (← queryAll volume time destinations) time

end Selection

end NodeAgent
