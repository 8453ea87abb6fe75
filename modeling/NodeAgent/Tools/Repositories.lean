/-
This file answers calls of the repositories with the backup program. Snapshots carry the name of
their volume as a tag and the node as their host. A mounted snapshot is served by a program that
stays: the mount is there once the directory of the snapshot appears, and the program is kept in a
table until the snapshot is unmounted.
-/

import NodeAgent.Backend
import NodeAgent.Host.Call
import NodeAgent.Tools.Volumes

namespace NodeAgent.Tools

/-- The programs that serve mounted snapshots, by mount point. -/
abbrev Servers := Table Child

namespace Repositories

open HostTask

/-- How the backup program is used: the host that snapshots are written for, and the time limit of
an invocation. -/
structure Usage where
  host : String
  limit : Nat
deriving DecidableEq, Inhabited

/-- How long a mount may take to appear, counted in the pauses of the wait. -/
def mountLimit : Nat := 120000

/-- The time between two looks for a mount. -/
def pollInterval : Nat := 500

/-- How long the program that served a mount may take to end. -/
def reapLimit : Nat := 30000

/-! ### Listings -/

/-- The length of the short form of a snapshot's id. -/
def shortIdLength : Nat := 8

/-- Reads one snapshot of a listing. Where the short id is left out, it is the beginning of the
id. -/
def snapshotDecoder (repository : String) : Json.Decoder Snapshot :=
  (Json.Decoder.record "ResticSnapshot"
    (.more (.required "id" .text)
    (.more (.withDefault "short_id" Json.Decoder.text.optional none)
    (.more (.required "time" .instant)
    (.more (.withDefault "paths" Json.Decoder.text.list [])
    .none))))).map
  fun (id, shortId, time, paths, _) =>
    ⟨repository, id, shortId.getD (String.ofList (id.toList.take shortIdLength)), time, paths⟩

/-- Reads a listing. -/
def listingDecoder (repository : String) : Json.Decoder (List Snapshot) :=
  (snapshotDecoder repository).list

/-- The directory of a mount that holds what a snapshot saved of its first path. -/
def contentDirectory (mountPoint : Path) (snapshot : Snapshot) : Path :=
  let root := (mountPoint.entry "ids").entry snapshot.shortId
  match snapshot.paths.head? with
  | some path => root.entry (String.ofList (path.toList.dropWhile (· = '/')))
  | none => root

/-! ### Invocations -/

/-- Calls the backup program for a destination. The repository is the one of the destination,
whatever its environment says. -/
def calling (destination : Destination) (arguments : List String) : Invocation :=
  ⟨"restic", arguments,
    destination.environment.insert "RESTIC_REPOSITORY" destination.repository⟩

/-- Lists the snapshots of a volume. -/
def listing (destination : Destination) (volume : String) : Invocation :=
  calling destination ["snapshots", "--json", "--tag", volume]

/-- Serves the snapshots of a repository at a mount point. -/
def serving (destination : Destination) (mountPoint : Path) : Invocation :=
  calling destination ["mount", mountPoint.text]

/-- Writes a snapshot. The time is given in universal time, so the program is told not to read it
in another zone. -/
def saving (destination : Destination) (host volume : String) (source : Path)
    (time : Timestamp) : Invocation :=
  let invocation := calling destination
    ["backup", "--tag", volume, "--host", host, "--time", time.argument, source.text]
  { invocation with environment := invocation.environment.insert "TZ" "UTC" }

/-! ### Answers -/

/-- Asks for the snapshot of a volume that is nearest to a time. -/
def findNearest (usage : Usage) (destination : Destination) (volume : String) (time : Instant) :
    HostTask (Option Snapshot) := do
  let output ← run usage.limit (listing destination volume)
  let listed ← fromResult
    ((Json.decodeGlyphs (listingDecoder destination.repository)
      (Text.glyphs output.stdout)).mapError Failure.serialization)
  return Snapshot.nearestTo? listed time

/-- Gives up on a mount that did not appear in time. -/
def giveUp (usage : Usage) (invocation : Invocation) (mountPoint : Path) (child : Child) :
    HostTask Unit := do
  let _ ← ask (.kill child)
  let _ ← ask (.run (Volumes.unmounting mountPoint) usage.limit)
  throw (.timeout invocation.text (mountLimit / 1000))

/-- Looks for the directory of a mount again and again until it is there, its program has ended,
or no time is left. The time runs in the pauses only: what a look or a poll takes is counted to the
pause before it. In the first round there is none, so that a mount is given up in it, because the
first look already took until the deadline, is not among the behaviours of this definition. -/
def await (usage : Usage) (invocation : Invocation) (mountPoint content : Path) (child : Child)
    (left : Nat) : HostTask Unit := do
  let there : Bool ← ask (.isThere content)
  if there then return ()
  let state : Except SystemFault ChildState ← ask (.poll child)
  match state with
  | .error fault =>
    throw (.backend invocation.text none s!"failed to poll restic mount: {fault}")
  | .ok (.ended status) =>
    throw (.backend invocation.text status
      "restic mount exited before the snapshot became available")
  | .ok .running =>
    if left = 0 then giveUp usage invocation mountPoint child
    else do
      let excess : Nat ← ask (.pause pollInterval)
      await usage invocation mountPoint content child (left - (pollInterval + excess))
termination_by left
decreasing_by
  simp only [pollInterval]
  omega

/-- Mounts a snapshot: the directory that holds its content, and the program that serves it. -/
def mount (usage : Usage) (destination : Destination) (snapshot : Snapshot) (mountPoint : Path) :
    HostTask (Path × Child) := do
  makeMountPoint mountPoint
  let invocation := serving destination mountPoint
  let started : Except SystemFault Child ← ask (.start invocation)
  match started with
  | .error fault =>
    throw (.backend invocation.text none s!"failed to spawn restic: {fault}")
  | .ok child =>
    let content := contentDirectory mountPoint snapshot
    await usage invocation mountPoint content child mountLimit
    return (content, child)

/-- Waits for a program that served a mount to end, and ends it where it does not. -/
def retire (child : Child) : HostTask Unit := do
  let reaped : Except SystemFault ChildState ← ask (.reap child reapLimit)
  match reaped with
  | .ok .running => do
    let _ ← ask (.kill child)
    return ()
  | .ok (.ended _) | .error _ => return ()

/-- Answers a call and keeps the table of serving programs. -/
def answer (usage : Usage) (servers : Servers) :
    (call : RepositoryCall) → Dialogue host (call.Answer × Servers)
  | .findNearest destination volume time => do
    return (← findNearest usage destination volume time, servers)
  | .mountSnapshot destination snapshot mountPoint => do
    match ← mount usage destination snapshot mountPoint with
    | .ok (content, child) =>
      return ((.ok content : Except Failure Path), servers.insert mountPoint.canonical child)
    | .error failure => return ((.error failure : Except Failure Path), servers)
  | .unmountSnapshot _ mountPoint => do
    match ← run usage.limit (Volumes.unmounting mountPoint) with
    | .error failure => return ((.error failure : Except Failure Unit), servers)
    | .ok _ =>
      match servers.get? mountPoint.canonical with
      | some child =>
        let _ ← retire child
        return ((.ok () : Except Failure Unit), servers.erase mountPoint.canonical)
      | none => return ((.ok () : Except Failure Unit), servers)
  | .backup destination volume source time => do
    let outcome : Except Failure Output ← run usage.limit
      (saving destination usage.host volume source time)
    return (BackupEnd.finished (outcome.map fun _ => ()), servers)

end Repositories

end NodeAgent.Tools
