/-
This file publishes and releases volumes. Publishing makes a volume present, fills it from the
nearest snapshot where it is new, where an earlier filling failed or where every publish restores,
and mounts it at its target. Releasing mounts the volume at the staging path, backs it up to every
destination and unmounts it; a volume that was never filled or is not mounted is not backed up, so
that an empty volume never becomes the newest snapshot.
-/

import NodeAgent.Backup
import NodeAgent.Naming
import NodeAgent.Phase
import NodeAgent.Restore

namespace NodeAgent

/-- When a volume that is already there is filled from a snapshot. -/
inductive RestorePolicy where
  | onCreate
  | always
deriving DecidableEq, Inhabited

namespace RestorePolicy

/-- All policies. -/
def all : List RestorePolicy := [.onCreate, .always]

/-- The name of a policy. -/
def text : RestorePolicy → String
  | onCreate => "on_create"
  | always => "always"

/-- The policy of a name. -/
def ofText? (name : String) : Option RestorePolicy := all.find? (·.text = name)

end RestorePolicy

/-- What the agent is set up with. -/
structure Settings where
  pool : ThinPool
  staging : Path
  defaultSize : Size
  policy : RestorePolicy
  destinations : List Destination
deriving DecidableEq, Inhabited

/-- What the agent knows: the roster of the pool, the phase of each volume, the volumes whose
filling failed, and the volumes that have a lock. -/
structure Agent where
  roster : Roster
  phases : Table Phase
  pending : Table Unit
  locks : Table Unit
deriving DecidableEq, Inhabited

/-- A volume that was published. -/
structure Published where
  volume : Volume
  created : Bool
  restoredFrom : Option Source
deriving DecidableEq, Inhabited

/-- A volume that was released, with the reason where it was not backed up. -/
structure Released where
  report : BackupReport
  skipped : Option String
deriving DecidableEq, Inhabited

/-- All warnings of a release. -/
def Released.warnings (released : Released) : List String :=
  released.skipped.toList ++ released.report.warnings

namespace Settings

/-- Where a volume is mounted while it is filled or backed up. -/
def volumePoint (settings : Settings) (volume : String) : Path := settings.staging.entry volume

/-- Where a snapshot is mounted while a volume is filled from it. -/
def snapshotPoint (settings : Settings) (volume : String) : Path :=
  (settings.staging.entry ".snapshots").entry volume

end Settings

namespace Agent

open Operation

/-- An agent that has not seen any request. -/
def fresh (roster : Roster) : Agent := ⟨roster, .empty, .empty, .empty⟩

/-- The phase of a volume; a volume that no operation has touched is idle. -/
def phase (agent : Agent) (volume : String) : Phase := (agent.phases.get? volume).getD .idle

/-- An operation on the pool, as one of the agent. -/
def onPool {Result : Type} (operation : Operation Roster Result) : Operation Agent Result :=
  operation.within Agent.roster fun roster agent => { agent with roster }

/-- Records the phase of a volume. -/
def setPhase (volume : String) (phase : Phase) : Operation Agent Unit :=
  modify fun agent => { agent with phases := agent.phases.insert volume phase }

/-- Records that a volume still has to be filled. -/
def markPending (volume : String) : Operation Agent Unit :=
  modify fun agent => { agent with pending := agent.pending.insert volume () }

/-- Records that a volume is filled, or that there is nothing to fill it from. -/
def clearPending (volume : String) : Operation Agent Unit :=
  modify fun agent => { agent with pending := agent.pending.erase volume }

/-- Takes the lock of a volume, which is made where there is none. -/
def takeLock (volume : String) : Operation Agent Unit :=
  modify fun agent => { agent with locks := agent.locks.insert volume () }

/-- Gives the lock of a volume back. Nobody waits for the lock of a volume that is unpublished, so
it is dropped. -/
def releaseLock (volume : String) : Operation Agent Unit :=
  modify fun agent =>
    if agent.phase volume = .unpublished then { agent with locks := agent.locks.erase volume }
    else agent

/-- Carries out an operation on a volume and records its failure. -/
def recordingFailure {Result : Type} (volume : String) (operation : Operation Agent Result) :
    Operation Agent Result := do
  match ← attempt operation with
  | .ok result => return result
  | .error failure =>
    setPhase volume .failed
    throw failure

/-! ### Publishing -/

/-- Fills a volume from the nearest snapshot of any destination, where there is one. A volume whose
filling fails stays and is marked for the next publish. -/
def fill (settings : Settings) (now : Instant) (volume : String) :
    Operation Agent (Option Source) := do
  setPhase volume .selecting
  match ← ofDialogue (Selection.select volume settings.destinations now) with
  | none =>
    clearPending volume
    return none
  | some source =>
    setPhase volume .restoring
    match ← attempt (onPool (Restore.restore settings.pool volume source
        (settings.volumePoint volume) (settings.snapshotPoint volume))) with
    | .ok _ =>
      clearPending volume
      return some source
    | .error failure =>
      markPending volume
      throw failure

/-- Publishes a volume whose lock is held. -/
def publishLocked (settings : Settings) (now : Instant) (volume : String) (target : Path)
    (size : Size) : Operation Agent Published := do
  setPhase volume .presenting
  let presence ← onPool (Pool.ensurePresent settings.pool volume size)
  if presence.volume.isMountedAt target then
    setPhase volume .published
    return ⟨presence.volume, presence.created, none⟩
  let agent ← get
  let restores := presence.created || agent.pending.contains volume || settings.policy = .always
  let restoredFrom ← if restores then fill settings now volume else pure none
  setPhase volume .finalMounting
  let mounted ← onPool (Pool.ensureMounted settings.pool volume target)
  setPhase volume .published
  return ⟨mounted, presence.created, restoredFrom⟩

/-- Publishes a volume at a path, with a size where one is asked for. -/
def publish (settings : Settings) (now : Instant) (volume : String) (target : Path)
    (capacity : Option Int) : Operation Agent Published := do
  fromResult (checkVolumeId volume)
  fromResult (checkTargetPath target)
  let size := (capacity.map Size.mk).getD settings.defaultSize
  if size.bytes ≤ 0 then
    throw (.invalidRequest s!"requested size must be positive, got {size}")
  takeLock volume
  recordingFailure volume (publishLocked settings now volume target size)

/-! ### Releasing -/

/-- Why a volume is not backed up, where it is not. -/
def skipReason? (agent : Agent) (volume : Volume) (name : String) : Option String :=
  if agent.pending.contains name then
    some s!"{name} was never seeded from backup, skipping backup"
  else if volume.target.isNone then some s!"{name} is not mounted, nothing to back up"
  else none

/-- Releases a volume whose lock is held. -/
def unpublishLocked (settings : Settings) (now : Instant) (volume : String) :
    Operation Agent Released := do
  let time := Timestamp.ofInstant now
  setPhase volume .stagingRemount
  let current ← match ← onPool (Pool.find settings.pool volume) with
    | some current => pure current
    | none => throw (.notFound s!"volume {volume} does not exist")
  match (← get).skipReason? current volume with
  | some reason =>
    let _ ← onPool (Pool.ensureUnmounted settings.pool volume)
    setPhase volume .unpublished
    return ⟨⟨time, []⟩, some reason⟩
  | none =>
    let _ ← onPool (Pool.ensureUnmounted settings.pool volume)
    let staging := settings.volumePoint volume
    let _ ← onPool (Pool.ensureMounted settings.pool volume staging)
    setPhase volume .backingUp
    let report ← ofDialogue (Backup.backupAll volume staging settings.destinations time)
    let _ ← onPool (Pool.ensureUnmounted settings.pool volume)
    setPhase volume .unpublished
    return ⟨report, none⟩

/-- Releases a volume. The path only has to be one; a volume that is mounted elsewhere is released
all the same. -/
def unpublish (settings : Settings) (now : Instant) (volume : String) (target : Path) :
    Operation Agent Released := do
  fromResult (checkVolumeId volume)
  fromResult (checkTargetPath target)
  takeLock volume
  let result ← attempt (recordingFailure volume (unpublishLocked settings now volume))
  releaseLock volume
  fromResult result

end Agent

end NodeAgent
