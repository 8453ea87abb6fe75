/-
This file keeps the volumes of a group in memory and answers in place of the volume tools. It
records what it was asked, and can be told to fail at some operations. A creation whose formatting
fails leaves the volume behind.
-/

import NodeAgent.Backend

namespace NodeAgent.Memory

/-- An operation of the volume tools. Formatting is the second half of a creation. -/
inductive VolumeOp where
  | list
  | create
  | format
  | extend
  | remove
  | queryMount
  | mount
  | unmount
  | copyTree
deriving DecidableEq, Inhabited

namespace VolumeOp

/-- The name of an operation. -/
def text : VolumeOp → String
  | list => "list"
  | create => "create"
  | format => "mkfs"
  | extend => "extend"
  | remove => "remove"
  | queryMount => "query_mount"
  | mount => "mount"
  | unmount => "unmount"
  | copyTree => "copy_tree"

/-- All operations. -/
def all : List VolumeOp :=
  [list, create, format, extend, remove, queryMount, mount, unmount, copyTree]

/-- The operation of a call; whether a pool is thin is no operation. -/
def ofCall? : VolumeCall → Option VolumeOp
  | .isThin _ => none
  | .list _ => some list
  | .create _ _ _ => some create
  | .extend _ _ _ => some extend
  | .remove _ _ => some remove
  | .queryMount _ => some queryMount
  | .mount _ _ => some mount
  | .unmount _ => some unmount
  | .copyTree _ _ => some copyTree

end VolumeOp

/-- A volume in memory: its size and where it is mounted. -/
structure StoredVolume where
  size : Size
  target : Option Path
deriving DecidableEq, Inhabited

/-- Volumes in memory, the calls that were made, and the operations that fail. -/
structure VolumeStore where
  group : String
  thin : Bool
  volumes : Table StoredVolume
  calls : List VolumeCall
  failing : List VolumeOp
deriving DecidableEq, Inhabited

namespace VolumeStore

/-- A store without volumes. -/
def ofGroup (group : String) : VolumeStore := ⟨group, true, .empty, [], []⟩

/-- Adds a volume that is not mounted. -/
def withVolume (store : VolumeStore) (name : String) (size : Size) : VolumeStore :=
  { store with volumes := store.volumes.insert name ⟨size, none⟩ }

/-- Forgets the calls. -/
def forgetCalls (store : VolumeStore) : VolumeStore := { store with calls := [] }

/-- The mounted volumes with their mount points. -/
def mounts (store : VolumeStore) : List (String × Path) :=
  store.volumes.entries.filterMap fun entry => entry.2.target.map (entry.1, ·)

/-- Where a volume is mounted. -/
def targetOf (store : VolumeStore) (name : String) : Option Path :=
  (store.volumes.get? name).bind (·.target)

/-- Whether a call changes the volumes. -/
def isMutation : VolumeCall → Bool
  | .create _ _ _ | .extend _ _ _ | .remove _ _ | .mount _ _ | .unmount _ => true
  | .isThin _ | .list _ | .queryMount _ | .copyTree _ _ => false

/-- The volume that a device path names. -/
def nameOf (device : Path) : String := device.fileName?.getD ""

/-- The listed form of a stored volume. -/
def listed (store : VolumeStore) (name : String) (stored : StoredVolume) : Volume :=
  ⟨name, store.group, "Vwi-a-tz--", stored.size, stored.target.isSome, stored.target⟩

/-- The failure of an operation that was told to fail. -/
def told (op : VolumeOp) : Failure := .backend s!"fake {op.text}" (some 5) s!"{op.text} failed"

/-- The outcome of creating a volume. -/
def create (store : VolumeStore) (name : String) (size : Size) :
    Except Failure Unit × VolumeStore :=
  if store.volumes.contains name then
    (.error (.backend "fake create" (some 5) s!"{name} already exists"), store)
  else
    let allocated := { store with volumes := store.volumes.insert name ⟨size, none⟩ }
    if VolumeOp.format ∈ store.failing then
      (.error (.backend "fake mkfs.xfs" (some 1) s!"cannot format {name}"), allocated)
    else (.ok (), allocated)

/-- The outcome of extending a volume. -/
def extend (store : VolumeStore) (name : String) (size : Size) :
    Except Failure Unit × VolumeStore :=
  match store.volumes.get? name with
  | some stored =>
    (.ok (), { store with volumes := store.volumes.insert name { stored with size } })
  | none => (.error (.backend "fake extend" (some 5) s!"{name} not found"), store)

/-- The outcome of removing a volume. -/
def remove (store : VolumeStore) (name : String) : Except Failure Unit × VolumeStore :=
  if store.volumes.contains name then
    (.ok (), { store with volumes := store.volumes.erase name })
  else (.error (.backend "fake remove" (some 5) s!"{name} not found"), store)

/-- The outcome of mounting a device. -/
def mount (store : VolumeStore) (device target : Path) : Except Failure Unit × VolumeStore :=
  match store.volumes.get? (nameOf device) with
  | none => (.error (.backend "fake mount" (some 32) "special device does not exist"), store)
  | some stored =>
    if stored.target.isSome then
      (.error (.backend "fake mount" (some 32) "already mounted"), store)
    else
      let mounted := { stored with target := some target }
      (.ok (), { store with volumes := store.volumes.insert (nameOf device) mounted })

/-- The outcome of unmounting a device. -/
def unmount (store : VolumeStore) (device : Path) : Except Failure Unit × VolumeStore :=
  match store.volumes.get? (nameOf device) with
  | some ⟨size, some _⟩ =>
    (.ok (), { store with volumes := store.volumes.insert (nameOf device) ⟨size, none⟩ })
  | some ⟨_, none⟩ | none => (.error (.backend "fake umount" (some 32) "not mounted"), store)

/-- Carries out a call that was not told to fail. -/
def perform (store : VolumeStore) : (call : VolumeCall) → Except Failure call.Result × VolumeStore
  | .isThin pool =>
    let thin : Bool := store.thin && pool.group = store.group
    (.ok thin, store)
  | .list _ =>
    let listing : List Volume := store.volumes.entries.map fun entry => store.listed entry.1 entry.2
    (.ok listing, store)
  | .create _ name size => store.create name size
  | .extend _ name size => store.extend name size
  | .remove _ name => store.remove name
  | .queryMount device =>
    let target : Option Path := store.targetOf (nameOf device)
    (.ok target, store)
  | .mount device target => store.mount device target
  | .unmount device => store.unmount device
  | .copyTree _ _ => (.ok (), store)

/-- Answers a call and records it. -/
def answer (store : VolumeStore) (call : VolumeCall) : Except Failure call.Result × VolumeStore :=
  match VolumeOp.ofCall? call with
  | none => store.perform call
  | some op =>
    let recorded := { store with calls := store.calls ++ [call] }
    if op ∈ store.failing then (.error (told op), recorded) else recorded.perform call

end VolumeStore

end NodeAgent.Memory
