/-
This file manages the volumes of one thin pool. The manager keeps a roster of the volumes as they
were last listed and replaces it as a whole after every listing, never in parts. Every change is
decided on a listing of the same operation, so a roster that is out of date does no harm.
-/

import NodeAgent.Backend
import NodeAgent.Table

namespace NodeAgent

/-- The volumes as they were last listed, by name. -/
abbrev Roster := Table Volume

namespace Pool

open Operation

/-- What was done to make a volume present. -/
inductive Action where
  | created
  | extended
  | unchanged
deriving DecidableEq

/-- A volume that is present, and what was done for it. -/
structure Presence where
  volume : Volume
  action : Action
deriving DecidableEq

/-- Whether the volume is new. -/
def Presence.created (presence : Presence) : Bool := presence.action = .created

/-- The roster of listed volumes; of two with the same name the later counts. -/
def rosterOf (listed : List Volume) : Roster :=
  .ofList (listed.map fun volume => (volume.name, volume))

/-- Lists the volumes and replaces the roster. -/
def refresh (pool : ThinPool) : Operation Roster Unit := do
  let listed ← askVolume (.list pool)
  set (rosterOf listed)

/-- Lists the volumes and looks one up. -/
def find (pool : ThinPool) (name : String) : Operation Roster (Option Volume) := do
  refresh pool
  return (← get).get? name

/-- Lists the volumes and looks one up that has to be there. -/
def require (pool : ThinPool) (name : String) : Operation Roster Volume := do
  match ← find pool name with
  | some volume => return volume
  | none => throw (.notFound s!"volume {name} not found in {pool}")

/-- Opens a pool: it has to be a thin pool. The result is the first roster. -/
def openPool (path : String) : Operation Roster ThinPool := do
  let pool ← fromResult (ThinPool.read path)
  let thin : Bool ← askVolume (.isThin pool)
  unless thin do
    throw (.notFound s!"thin pool {pool} does not exist or is not thin-provisioned")
  refresh pool
  return pool

/-- Removes what a failed creation left behind, so that a volume is created completely or not at
all. Failures on the way are ignored. -/
def discardPartial (pool : ThinPool) (name : String) : Operation Roster Unit := do
  match ← attempt (find pool name) with
  | .ok (some _) =>
    let _ ← attempt (askVolume (.remove pool name))
    let _ ← attempt (refresh pool)
  | .ok none | .error _ => return ()

/-- Makes sure that a volume is there with at least the given size: creates it, extends it, or
leaves it as it is. -/
def ensurePresent (pool : ThinPool) (name : String) (least : Size) :
    Operation Roster Presence := do
  if least.bytes ≤ 0 then
    throw (.invalidRequest s!"volume size must be positive, got {least}")
  match ← find pool name with
  | none =>
    match ← attempt (askVolume (.create pool name least)) with
    | .ok _ => return ⟨← require pool name, .created⟩
    | .error failure =>
      discardPartial pool name
      throw failure
  | some existing =>
    if existing.size.bytes < least.bytes then
      let _ ← askVolume (.extend pool name least)
      return ⟨← require pool name, .extended⟩
    else
      return ⟨existing, .unchanged⟩

/-- Makes sure that a volume is not there. -/
def ensureAbsent (pool : ThinPool) (name : String) : Operation Roster Unit := do
  if (← find pool name).isSome then
    let _ ← askVolume (.remove pool name)
    refresh pool

/-- All volumes, in the order of their names. -/
def list (pool : ThinPool) : Operation Roster (List Volume) := do
  refresh pool
  return (← get).values

/-- Records a mount state that was found in the roster. -/
def record (name : String) (volume : Volume) (target : Option Path) :
    Operation Roster Volume := do
  let seen := volume.withTarget target
  modify (·.insert name seen)
  return seen

/-- Makes sure that a volume is mounted at a path. A volume that is mounted elsewhere is refused;
what counts is where its device is mounted now. -/
def ensureMounted (pool : ThinPool) (name : String) (target : Path) : Operation Roster Volume := do
  let volume ← require pool name
  let current : Option Path ← askVolume (.queryMount volume.device)
  match current with
  | some place =>
    if place.same target then
      record name volume (some place)
    else
      throw (.alreadyExists
        s!"volume {name} is mounted at {place.quoted}, refusing to mount at {target.quoted}")
  | none =>
    let _ ← askVolume (.mount volume.device target)
    require pool name

/-- Makes sure that a volume is not mounted. -/
def ensureUnmounted (pool : ThinPool) (name : String) : Operation Roster Volume := do
  let volume ← require pool name
  let current : Option Path ← askVolume (.queryMount volume.device)
  match current with
  | none => record name volume none
  | some _ =>
    let _ ← askVolume (.unmount volume.device)
    require pool name

end Pool

end NodeAgent
