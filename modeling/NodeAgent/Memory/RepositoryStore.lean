/-
This file keeps repositories in memory and answers in their place. Each repository has a list of
snapshots, the same for every volume; backups are recorded and not kept. A repository can be told
to fail at some operations.
-/

import NodeAgent.Backend

namespace NodeAgent.Memory

/-- An operation of a repository. -/
inductive RepositoryOp where
  | find
  | mount
  | unmount
  | backup
deriving DecidableEq, Inhabited

namespace RepositoryOp

/-- The name of an operation. -/
def text : RepositoryOp → String
  | find => "find"
  | mount => "mount"
  | unmount => "unmount"
  | backup => "backup"

/-- All operations. -/
def all : List RepositoryOp := [find, mount, unmount, backup]

end RepositoryOp

/-- Repositories in memory: their snapshots, the calls that were made, the operations that fail,
and the mounted snapshots by mount point, each with its repository. -/
structure RepositoryStore where
  snapshots : Table (List Snapshot)
  calls : List RepositoryCall
  failing : List (String × RepositoryOp)
  mounts : Table (Path × String)
deriving DecidableEq, Inhabited

namespace RepositoryStore

/-- A store without snapshots. -/
def empty : RepositoryStore := ⟨.empty, [], [], .empty⟩

/-- Adds a snapshot to a repository. Its short id is the beginning of its id. -/
def withSnapshot (store : RepositoryStore) (repository id : String) (time : Instant) :
    RepositoryStore :=
  let snapshot : Snapshot := ⟨repository, id, String.ofList (id.toList.take 8), time, []⟩
  let before := (store.snapshots.get? repository).getD []
  { store with snapshots := store.snapshots.insert repository (before ++ [snapshot]) }

/-- The backups that were asked for, with their times. -/
def backups (calls : List RepositoryCall) : List (String × Timestamp) :=
  calls.filterMap fun call =>
    match call with
    | .backup destination _ _ time => some (destination.repository, time)
    | .findNearest _ _ _ | .mountSnapshot _ _ _ | .unmountSnapshot _ _ => none

/-- The mount points of mounted snapshots, as they were given and in the order of their texts. -/
def mountPoints (store : RepositoryStore) : List Path :=
  (Table.ofList (store.mounts.values.map fun mount => (mount.1.text, ()))).keys.map Path.mk

/-- The failure of an operation that was told to fail. -/
def told (repository : String) (op : RepositoryOp) : Failure :=
  .backend s!"fake restic {op.text}" (some 1) s!"{repository} unreachable"

/-- Carries out an operation of a repository unless it was told to fail. -/
def unlessTold {Result : Type} (store : RepositoryStore) (repository : String)
    (op : RepositoryOp) (outcome : Except Failure Result × RepositoryStore) :
    Except Failure Result × RepositoryStore :=
  if (repository, op) ∈ store.failing then (.error (told repository op), store) else outcome

/-- The outcome of mounting a snapshot. -/
def mount (store : RepositoryStore) (repository : String) (snapshot : Snapshot)
    (mountPoint : Path) : Except Failure Path × RepositoryStore :=
  if store.mounts.contains mountPoint.canonical then
    (.error (.backend "fake restic mount" (some 1) "mountpoint busy"), store)
  else
    let content := (mountPoint.entry "ids").entry snapshot.shortId
    (.ok content,
      { store with mounts := store.mounts.insert mountPoint.canonical (mountPoint, repository) })

/-- The outcome of unmounting a snapshot. -/
def unmount (store : RepositoryStore) (mountPoint : Path) : Except Failure Unit × RepositoryStore :=
  if store.mounts.contains mountPoint.canonical then
    (.ok (), { store with mounts := store.mounts.erase mountPoint.canonical })
  else (.error (.backend "fake umount" (some 32) "not mounted"), store)

/-- The nearest snapshot of a repository. -/
def nearest (store : RepositoryStore) (repository : String) (time : Instant) : Option Snapshot :=
  Snapshot.nearestTo? ((store.snapshots.get? repository).getD []) time

/-- Answers a call and records it. -/
def answer (store : RepositoryStore) (call : RepositoryCall) : call.Answer × RepositoryStore :=
  let recorded := { store with calls := store.calls ++ [call] }
  match call with
  | .findNearest destination _ time =>
    recorded.unlessTold destination.repository .find
      (.ok (store.nearest destination.repository time), recorded)
  | .mountSnapshot destination snapshot mountPoint =>
    recorded.unlessTold destination.repository .mount
      (recorded.mount destination.repository snapshot mountPoint)
  | .unmountSnapshot destination mountPoint =>
    recorded.unlessTold destination.repository .unmount (recorded.unmount mountPoint)
  | .backup destination _ _ _ =>
    let (outcome, after) := recorded.unlessTold destination.repository .backup (.ok (), recorded)
    (.finished outcome, after)

end RepositoryStore

end NodeAgent.Memory
