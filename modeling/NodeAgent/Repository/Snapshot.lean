/-
This file defines snapshots of volumes: which repository holds one, when it was taken and what it
holds.
-/

import NodeAgent.Json.Decoder
import NodeAgent.Nearest

namespace NodeAgent

/-- A snapshot in a repository. -/
structure Snapshot where
  repository : String
  id : String
  shortId : String
  time : Instant
  paths : List String
deriving DecidableEq, Inhabited

namespace Snapshot

/-- The time between a snapshot and an instant, in whole milliseconds. -/
def distanceTo (snapshot : Snapshot) (instant : Instant) : Nat :=
  snapshot.time.distance instant

/-- The nearest of some snapshots to an instant; of equally near ones the first. -/
def nearestTo? (snapshots : List Snapshot) (instant : Instant) : Option Snapshot :=
  nearest? (·.distanceTo instant) snapshots

/-- A snapshot inside JSON. -/
def toJson (snapshot : Snapshot) : Json :=
  .object [("repository", .text snapshot.repository), ("id", .text snapshot.id),
    ("short_id", .text snapshot.shortId), ("time", .text snapshot.time.wireText),
    ("paths", .ofTexts snapshot.paths)]

/-- Reads a snapshot. -/
def decoder : Json.Decoder Snapshot :=
  (Json.Decoder.record "SnapshotDescriptor"
    (.more (.required "repository" .text)
    (.more (.required "id" .text)
    (.more (.required "short_id" .text)
    (.more (.required "time" .instant)
    (.more (.withDefault "paths" Json.Decoder.text.list [])
    .none)))))).map
  fun (repository, id, shortId, time, paths, _) => ⟨repository, id, shortId, time, paths⟩

end Snapshot

end NodeAgent
