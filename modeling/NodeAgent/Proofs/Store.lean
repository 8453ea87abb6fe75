/-
This file says what the volumes in memory do to one volume. Calls that do not name it leave it
alone; the operations of the pool leave it as their names say; and where none of the calls that an
operation needs was told to fail, the operation comes out well.
-/

import NodeAgent.Proofs.Points
import NodeAgent.Proofs.Session

namespace NodeAgent

/-! ### Devices -/

/-- The device of a volume with a valid id is the one of that volume. -/
theorem nameOf_devicePath {id : String} (valid : checkVolumeId id = .ok ()) (group : String) :
    Memory.VolumeStore.nameOf (devicePath group id) = id := by
  unfold Memory.VolumeStore.nameOf
  rw [fileName?_devicePath valid]
  rfl

/-- Whether a call may change what is stored under a name. -/
def Call.Touches (name : String) : Call → Prop
  | volume (.create _ changed _) | volume (.extend _ changed _) | volume (.remove _ changed) =>
    changed = name
  | volume (.mount device _) | volume (.unmount device) =>
    Memory.VolumeStore.nameOf device = name
  | _ => False

theorem Call.IsMounting.spares {call : Call} {name other : String}
    (mounting : call.IsMounting name) (valid : checkVolumeId name = .ok ())
    (different : name ≠ other) : ¬call.Touches other := by
  match call, mounting with
  | .volume (.list _), _ | .volume (.queryMount _), _ => exact id
  | .volume (.mount _ _), ⟨group, device⟩ | .volume (.unmount _), ⟨group, device⟩ =>
    intro touches
    rw [device] at touches
    exact different ((nameOf_devicePath valid group).symm.trans touches)

/-- The care of one volume does not touch another. -/
theorem Call.IsUpkeep.spares {call : Call} {name other : String} (upkeep : call.IsUpkeep name)
    (valid : checkVolumeId name = .ok ()) (different : name ≠ other) : ¬call.Touches other := by
  match call, upkeep with
  | .volume (.create _ _ _), same | .volume (.extend _ _ _), same | .volume (.remove _ _), same =>
    exact fun touches => different (same.symm.trans touches)
  | .volume (.list _), mounting | .volume (.queryMount _), mounting
  | .volume (.mount _ _), mounting | .volume (.unmount _), mounting =>
    exact Call.IsMounting.spares mounting valid different

theorem Call.IsRestoring.spares {call : Call} {name other : String}
    (restoring : call.IsRestoring name) (valid : checkVolumeId name = .ok ())
    (different : name ≠ other) : ¬call.Touches other := by
  match call, restoring with
  | .volume (.copyTree _ _), _ | .repository _, _ => exact id
  | .volume (.list _), mounting | .volume (.queryMount _), mounting
  | .volume (.mount _ _), mounting | .volume (.unmount _), mounting =>
    exact Call.IsMounting.spares mounting valid different

/-- Whether a call may change which snapshot is mounted at a place, given by its one text. -/
def Call.TouchesPoint (key : String) : Call → Prop
  | repository (.mountSnapshot _ _ point) | repository (.unmountSnapshot _ point) =>
    point.canonical = key
  | _ => False

theorem Call.IsUpkeep.not_touchesPoint {call : Call} {name : String} (upkeep : call.IsUpkeep name)
    (key : String) : ¬call.TouchesPoint key := by
  match call, upkeep with
  | .volume (.create _ _ _), _ | .volume (.extend _ _ _), _ | .volume (.remove _ _), _
  | .volume (.list _), _ | .volume (.queryMount _), _ | .volume (.mount _ _), _
  | .volume (.unmount _), _ => exact id

namespace Memory

/-- What is stored under a name. -/
def Backends.stored (world : Backends) (name : String) : Option StoredVolume :=
  world.volumes.volumes.get? name

/-- The snapshot mount at a place, as it was asked for and with its repository. -/
def Backends.served (world : Backends) (place : Path) : Option (Path × String) :=
  world.repositories.mounts.get? place.canonical

/-- Whether an operation of the volume tools was told to fail. -/
def Backends.Fails (world : Backends) (op : VolumeOp) : Prop := op ∈ world.volumes.failing

/-! ### One call -/

namespace VolumeStore

variable {store : VolumeStore} {call : VolumeCall} {op : VolumeOp}

theorem answer_of_failing (known : VolumeOp.ofCall? call = some op) (fails : op ∈ store.failing) :
    store.answer call = (.error (told op), { store with calls := store.calls ++ [call] }) := by
  unfold answer
  rw [known]
  exact if_pos fails

theorem answer_of_not_failing (known : VolumeOp.ofCall? call = some op)
    (works : op ∉ store.failing) :
    store.answer call = { store with calls := store.calls ++ [call] }.perform call := by
  unfold answer
  rw [known]
  exact if_neg works

/-- A call that does not name a volume leaves it as it is. -/
theorem get?_perform (store : VolumeStore) {name : String}
    (spares : ¬Call.Touches name (.volume call)) :
    (store.perform call).2.volumes.get? name = store.volumes.get? name := by
  cases call with
  | isThin | list | queryMount | copyTree => rfl
  | create pool changed size =>
    show (store.create changed size).2.volumes.get? name = _
    unfold create
    split
    · rfl
    dsimp only
    split
    · exact Table.get?_insert_other _ _ (Ne.symm spares)
    · exact Table.get?_insert_other _ _ (Ne.symm spares)
  | extend pool changed size =>
    show (store.extend changed size).2.volumes.get? name = _
    unfold extend
    split
    · exact Table.get?_insert_other _ _ (Ne.symm spares)
    · rfl
  | remove pool changed =>
    show (store.remove changed).2.volumes.get? name = _
    unfold remove
    split
    · exact Table.get?_erase_other _ (Ne.symm spares)
    · rfl
  | mount device target =>
    show (store.mount device target).2.volumes.get? name = _
    unfold mount
    split
    · rfl
    split
    · rfl
    · exact Table.get?_insert_other _ _ (Ne.symm spares)
  | unmount device =>
    show (store.unmount device).2.volumes.get? name = _
    unfold unmount
    split
    · exact Table.get?_insert_other _ _ (Ne.symm spares)
    · rfl
    · rfl

/-- Only its creation brings a volume into the store. -/
theorem get?_perform_eq_none {name : String} (missing : store.volumes.get? name = none)
    (uncreated : ¬Call.IsCreationOf name (.volume call)) :
    (store.perform call).2.volumes.get? name = none := by
  by_cases touches : Call.Touches name (.volume call)
  · cases call with
    | isThin | list | queryMount | copyTree => exact absurd touches id
    | create pool created size => exact absurd touches uncreated
    | extend pool changed size =>
      obtain rfl : changed = name := touches
      show (store.extend changed size).2.volumes.get? changed = none
      unfold extend
      rw [missing]
      exact missing
    | remove pool changed =>
      obtain rfl : changed = name := touches
      show (store.remove changed).2.volumes.get? changed = none
      unfold remove
      split
      · exact Table.get?_erase_self _ _
      · exact missing
    | mount device target =>
      obtain rfl : nameOf device = name := touches
      show (store.mount device target).2.volumes.get? (nameOf device) = none
      unfold mount
      rw [missing]
      exact missing
    | unmount device =>
      obtain rfl : nameOf device = name := touches
      show (store.unmount device).2.volumes.get? (nameOf device) = none
      unfold unmount
      rw [missing]
      exact missing
  · rw [get?_perform store touches]
    exact missing

/-- A call changes neither the group nor which operations fail. -/
theorem setup_perform (store : VolumeStore) (call : VolumeCall) :
    (store.perform call).2.group = store.group ∧
      (store.perform call).2.failing = store.failing := by
  cases call with
  | isThin | list | queryMount | copyTree => exact ⟨rfl, rfl⟩
  | create pool changed size =>
    show (store.create changed size).2.group = _ ∧ (store.create changed size).2.failing = _
    unfold create
    split
    · exact ⟨rfl, rfl⟩
    dsimp only
    split <;> exact ⟨rfl, rfl⟩
  | extend pool changed size =>
    show (store.extend changed size).2.group = _ ∧ (store.extend changed size).2.failing = _
    unfold extend
    split <;> exact ⟨rfl, rfl⟩
  | remove pool changed =>
    show (store.remove changed).2.group = _ ∧ (store.remove changed).2.failing = _
    unfold remove
    split <;> exact ⟨rfl, rfl⟩
  | mount device target =>
    show (store.mount device target).2.group = _ ∧ (store.mount device target).2.failing = _
    unfold mount
    split
    · exact ⟨rfl, rfl⟩
    split <;> exact ⟨rfl, rfl⟩
  | unmount device =>
    show (store.unmount device).2.group = _ ∧ (store.unmount device).2.failing = _
    unfold unmount
    split <;> exact ⟨rfl, rfl⟩

theorem setup_answer (store : VolumeStore) (call : VolumeCall) :
    (store.answer call).2.group = store.group ∧
      (store.answer call).2.failing = store.failing := by
  unfold answer
  split
  · exact store.setup_perform call
  · dsimp only
    split
    · exact ⟨rfl, rfl⟩
    · exact setup_perform _ call

/-- A listing of the store, as a roster, shows what is stored. -/
theorem get?_rosterOf_entries (store : VolumeStore) (name : String) :
    (Pool.rosterOf
        (store.volumes.entries.map fun entry => store.listed entry.1 entry.2)).get? name =
      (store.volumes.get? name).map (store.listed name) := by
  unfold Pool.rosterOf
  rw [List.map_map, Table.get?_ofList_of_pairwise]
  · exact Table.find_map store.listed name store.volumes.entries
  · refine List.pairwise_map.2 (store.volumes.sorted.imp ?_)
    exact fun less same => String.lt_irrefl _ (same ▸ less)

end VolumeStore

/-- A call that does not name a mount point leaves what is mounted there. -/
theorem RepositoryStore.get?_answer (store : RepositoryStore) {call : RepositoryCall} {key : String}
    (spares : ¬Call.TouchesPoint key (.repository call)) :
    (store.answer call).2.mounts.get? key = store.mounts.get? key := by
  cases call with
  | findNearest destination volume time | backup destination volume source time =>
    unfold answer unlessTold
    dsimp only
    split <;> rfl
  | mountSnapshot destination snapshot point =>
    have other : key ≠ point.canonical := Ne.symm spares
    unfold answer unlessTold mount
    dsimp only
    split
    · rfl
    split
    · rfl
    · exact Table.get?_insert_other _ _ other
  | unmountSnapshot destination point =>
    have other : key ≠ point.canonical := Ne.symm spares
    unfold answer unlessTold unmount
    dsimp only
    split
    · rfl
    split
    · exact Table.get?_erase_other _ other
    · rfl

/-! ### Conversations -/

namespace Backends

theorem targetOf_of_stored {world : Backends} {name : String} {stored : StoredVolume}
    (there : world.stored name = some stored) : world.volumes.targetOf name = stored.target := by
  show (world.stored name).bind StoredVolume.target = stored.target
  rw [there]
  rfl

theorem stored_answer (world : Backends) {call : Call} {name : String}
    (spares : ¬call.Touches name) : (answer call world).2.stored name = world.stored name := by
  cases call with
  | repository call => rfl
  | volume call =>
    show (world.volumes.answer call).2.volumes.get? name = world.volumes.volumes.get? name
    unfold VolumeStore.answer
    split
    · exact world.volumes.get?_perform spares
    · dsimp only
      split
      · rfl
      · exact VolumeStore.get?_perform _ spares

theorem mounts_answer (world : Backends) {call : Call} {key : String}
    (spares : ¬call.TouchesPoint key) :
    (answer call world).2.repositories.mounts.get? key =
      world.repositories.mounts.get? key := by
  cases call with
  | volume call => rfl
  | repository call => exact world.repositories.get?_answer spares

theorem stored_answer_eq_none {world : Backends} {call : Call} {name : String}
    (missing : world.stored name = none) (uncreated : ¬call.IsCreationOf name) :
    (answer call world).2.stored name = none := by
  cases call with
  | repository call => exact missing
  | volume call =>
    show (world.volumes.answer call).2.volumes.get? name = none
    unfold VolumeStore.answer
    split
    · exact VolumeStore.get?_perform_eq_none missing uncreated
    · dsimp only
      split
      · exact missing
      · exact VolumeStore.get?_perform_eq_none missing uncreated

/-- Backends that differ at most in what calls change. -/
structure SameSetup (before after : Backends) : Prop where
  group : after.volumes.group = before.volumes.group
  volumeFailures : after.volumes.failing = before.volumes.failing
  snapshots : after.repositories.snapshots = before.repositories.snapshots
  repositoryFailures : after.repositories.failing = before.repositories.failing

theorem sameSetup_answer (world : Backends) (call : Call) :
    SameSetup world (answer call world).2 := by
  cases call with
  | volume call =>
    obtain ⟨group, failing⟩ := world.volumes.setup_answer call
    exact ⟨group, failing, rfl, rfl⟩
  | repository call =>
    obtain ⟨failing, snapshots⟩ := world.repositories.kept_answer call
    exact ⟨rfl, rfl, snapshots, failing⟩

end Backends

namespace Answered

variable {world last : Backends} {exchanges rest : List (Exchange backends)}

/-- Calls that do not name a volume leave it as it is. -/
theorem stored_eq {name : String} (answered : Answered world exchanges last)
    (spare : ∀ exchange ∈ exchanges, ¬Call.Touches name exchange.question) :
    last.stored name = world.stored name := by
  induction answered with
  | nil => rfl
  | @cons world last rest call answered inductionHypothesis =>
    rw [inductionHypothesis fun exchange member => spare exchange (List.mem_cons_of_mem _ member)]
    exact world.stored_answer (spare _ List.mem_cons_self)

/-- Calls that do not name a mount point leave what is mounted there. -/
theorem mounts_eq {key : String} (answered : Answered world exchanges last)
    (spare : ∀ exchange ∈ exchanges, ¬Call.TouchesPoint key exchange.question) :
    last.repositories.mounts.get? key = world.repositories.mounts.get? key := by
  induction answered with
  | nil => rfl
  | @cons world last rest call answered inductionHypothesis =>
    rw [inductionHypothesis fun exchange member => spare exchange (List.mem_cons_of_mem _ member)]
    exact world.mounts_answer (spare _ List.mem_cons_self)

theorem served_eq {place : Path} (answered : Answered world exchanges last)
    (spare : ∀ exchange ∈ exchanges, ¬Call.TouchesPoint place.canonical exchange.question) :
    last.served place = world.served place :=
  answered.mounts_eq spare

theorem sameSetup (answered : Answered world exchanges last) : world.SameSetup last := by
  induction answered with
  | nil => exact ⟨rfl, rfl, rfl, rfl⟩
  | @cons world last rest call answered inductionHypothesis =>
    have first := world.sameSetup_answer call
    exact ⟨inductionHypothesis.group.trans first.group,
      inductionHypothesis.volumeFailures.trans first.volumeFailures,
      inductionHypothesis.snapshots.trans first.snapshots,
      inductionHypothesis.repositoryFailures.trans first.repositoryFailures⟩

theorem fails_iff (answered : Answered world exchanges last) (op : VolumeOp) :
    last.Fails op ↔ world.Fails op := by
  unfold Backends.Fails
  rw [answered.sameSetup.volumeFailures]

theorem cons_iff {exchange : Exchange backends} :
    Answered world (exchange :: rest) last ↔
      ∃ middle, Answered world [exchange] middle ∧ Answered middle rest last := by
  rw [← append_iff]
  rfl

theorem eq_answer {call : VolumeCall} {given : Except Failure call.Result}
    (answered : Answered world [.ofVolume call given] last) :
    world.volumes.answer call = (given, last.volumes) := by
  cases answered with
  | cons _ rest =>
    cases rest
    rfl

theorem eq_repositoryAnswer {call : RepositoryCall} {given : call.Answer}
    (answered : Answered world [.ofRepository call given] last) :
    given = (world.repositories.answer call).1 ∧
      last = { world with repositories := (world.repositories.answer call).2 } := by
  cases answered with
  | cons _ rest =>
    cases rest
    exact ⟨rfl, rfl⟩

/-- A call that came out well was not told to fail and was carried out. -/
theorem perform_of_ok {call : VolumeCall} {op : VolumeOp} {result : call.Result}
    (answered : Answered world [.ofVolume call (.ok result)] last)
    (known : VolumeOp.ofCall? call = some op) :
    ¬world.Fails op ∧
      { world.volumes with calls := world.volumes.calls ++ [call] }.perform call =
        (.ok result, last.volumes) := by
  have given := answered.eq_answer
  by_cases fails : op ∈ world.volumes.failing
  · rw [VolumeStore.answer_of_failing known fails] at given
    cases given
  · rw [VolumeStore.answer_of_not_failing known fails] at given
    exact ⟨fails, given⟩

/-- A call that failed was told to fail or failed when it was carried out. -/
theorem perform_of_error {call : VolumeCall} {op : VolumeOp} {failure : Failure}
    (answered : Answered world [.ofVolume call (.error failure)] last)
    (known : VolumeOp.ofCall? call = some op) :
    world.Fails op ∨
      { world.volumes with calls := world.volumes.calls ++ [call] }.perform call =
        (.error failure, last.volumes) := by
  have given := answered.eq_answer
  by_cases fails : op ∈ world.volumes.failing
  · exact Or.inl fails
  · rw [VolumeStore.answer_of_not_failing known fails] at given
    exact Or.inr given

theorem list_ok {pool : ThinPool} {volumes : List Volume}
    (answered : Answered world [.ofVolume (.list pool) (.ok volumes)] last) :
    ¬world.Fails .list ∧ ∀ name, (Pool.rosterOf volumes).get? name =
      (world.stored name).map (world.volumes.listed name) := by
  obtain ⟨works, performed⟩ := answered.perform_of_ok rfl
  cases (Prod.mk.inj performed).1
  exact ⟨works, fun name => world.volumes.get?_rosterOf_entries name⟩

theorem list_error {pool : ThinPool} {failure : Failure}
    (answered : Answered world [.ofVolume (.list pool) (.error failure)] last) :
    world.Fails .list := by
  rcases answered.perform_of_error rfl with fails | performed
  · exact fails
  · cases performed

theorem query_ok {device : Path} {current : Option Path}
    (answered : Answered world [.ofVolume (.queryMount device) (.ok current)] last) :
    ¬world.Fails .queryMount ∧
      current = (world.stored (VolumeStore.nameOf device)).bind StoredVolume.target := by
  obtain ⟨works, performed⟩ := answered.perform_of_ok rfl
  cases (Prod.mk.inj performed).1
  exact ⟨works, rfl⟩

theorem stored_eq_of_query {device : Path} {answer : Except Failure (Option Path)}
    (answered : Answered world [.ofVolume (.queryMount device) answer] last) (name : String) :
    last.stored name = world.stored name := by
  refine answered.stored_eq fun exchange member => ?_
  rw [List.mem_singleton.1 member]
  exact id

theorem query_error {device : Path} {failure : Failure}
    (answered : Answered world [.ofVolume (.queryMount device) (.error failure)] last) :
    world.Fails .queryMount := by
  rcases answered.perform_of_error rfl with fails | performed
  · exact fails
  · cases performed

theorem mount_ok {device target : Path}
    (answered : Answered world [.ofVolume (.mount device target) (.ok ())] last) :
    ∃ size, last.stored (VolumeStore.nameOf device) = some ⟨size, some target⟩ := by
  obtain ⟨works, performed⟩ := answered.perform_of_ok rfl
  change VolumeStore.mount _ device target = _ at performed
  unfold VolumeStore.mount at performed
  split at performed
  · cases performed
  split at performed
  · cases performed
  next stored there free =>
  refine ⟨stored.size, ?_⟩
  unfold Backends.stored
  rw [← (Prod.mk.inj performed).2]
  exact Table.get?_insert_self _ _ _

theorem mount_error {device target : Path} {failure : Failure}
    (answered : Answered world [.ofVolume (.mount device target) (.error failure)] last) :
    world.Fails .mount ∨ world.stored (VolumeStore.nameOf device) = none ∨
      ((world.stored (VolumeStore.nameOf device)).bind StoredVolume.target).isSome = true := by
  rcases answered.perform_of_error rfl with fails | performed
  · exact Or.inl fails
  · change VolumeStore.mount _ device target = _ at performed
    unfold VolumeStore.mount at performed
    refine Or.inr ?_
    unfold Backends.stored
    split at performed
    · next notThere => exact Or.inl notThere
    split at performed
    · next stored there taken =>
      rw [there]
      exact Or.inr taken
    · cases performed

theorem unmount_ok {device : Path}
    (answered : Answered world [.ofVolume (.unmount device) (.ok ())] last) :
    ¬world.Fails .unmount ∧
      ∃ size, last.stored (VolumeStore.nameOf device) = some ⟨size, none⟩ := by
  obtain ⟨works, performed⟩ := answered.perform_of_ok rfl
  refine ⟨works, ?_⟩
  change VolumeStore.unmount _ device = _ at performed
  unfold VolumeStore.unmount at performed
  split at performed
  · next size place there =>
    refine ⟨size, ?_⟩
    unfold Backends.stored
    rw [← (Prod.mk.inj performed).2]
    exact Table.get?_insert_self _ _ _
  · cases performed
  · cases performed

theorem unmount_error {device : Path} {failure : Failure}
    (answered : Answered world [.ofVolume (.unmount device) (.error failure)] last) :
    world.Fails .unmount ∨
      (world.stored (VolumeStore.nameOf device)).bind StoredVolume.target = none := by
  rcases answered.perform_of_error rfl with fails | performed
  · exact Or.inl fails
  · change VolumeStore.unmount _ device = _ at performed
    unfold VolumeStore.unmount at performed
    refine Or.inr ?_
    unfold Backends.stored
    split at performed
    · cases performed
    · next size there =>
      rw [there]
      rfl
    · next notThere =>
      rw [notThere]
      rfl

end Answered

/-! ### Operations of the pool -/

section Operations

variable {world last : Backends} {pool : ThinPool} {name : String} {target : Path}
  {before after : Roster} {exchanges : List (Exchange backends)}

theorem requires_stored_eq {outcome : Except Failure Volume}
    (requires : Pool.Requires pool name before exchanges outcome after)
    (answered : Answered world exchanges last) (other : String) :
    last.stored other = world.stored other := by
  refine answered.stored_eq fun exchange member => ?_
  cases requires with
  | found | missing | unlisted =>
    rw [List.mem_singleton.1 member]
    exact id

/-- A volume that is looked up and found is there, and it is shown as it is stored. -/
theorem requires_ok {volume : Volume}
    (requires : Pool.Requires pool name before exchanges (.ok volume) after)
    (answered : Answered world exchanges last) :
    ¬world.Fails .list ∧ ∃ stored, world.stored name = some stored ∧
      volume = world.volumes.listed name stored := by
  cases requires with
  | found volumes volume there =>
    obtain ⟨works, shown⟩ := answered.list_ok
    rw [shown] at there
    obtain ⟨stored, found, rfl⟩ := Option.map_eq_some_iff.1 there
    exact ⟨works, stored, found, rfl⟩

/-- A volume that is looked up in vain is not there, or it could not be listed. -/
theorem requires_error {failure : Failure}
    (requires : Pool.Requires pool name before exchanges (.error failure) after)
    (answered : Answered world exchanges last) :
    world.Fails .list ∨ world.stored name = none := by
  cases requires with
  | missing volumes notThere =>
    obtain ⟨works, shown⟩ := answered.list_ok
    rw [shown] at notThere
    exact Or.inr (Option.map_eq_none_iff.1 notThere)
  | unlisted failure => exact Or.inl answered.list_error

theorem nameOf_listed (valid : checkVolumeId name = .ok ()) (store : VolumeStore)
    (stored : StoredVolume) : VolumeStore.nameOf (store.listed name stored).device = name :=
  nameOf_devicePath valid store.group

/-- What is known once a volume was looked up and its device was looked at: the device is its own,
it is stored with the mount that was found, and neither look failed or changed anything. -/
structure Looked (world middle : Backends) (name : String) (device : Path)
    (current : Option Path) : Prop where
  named : VolumeStore.nameOf device = name
  lists : ¬world.Fails .list
  queries : ¬world.Fails .queryMount
  there : ∃ size, world.stored name = some ⟨size, current⟩
  kept : middle.stored name = world.stored name
  same : ∀ op, middle.Fails op ↔ world.Fails op

section Looks

variable {looking rest : List (Exchange backends)} {found : Volume} {seen : Roster}
  {failure : Failure}

theorem looked_of_requires (valid : checkVolumeId name = .ok ()) {current : Option Path}
    (required : Pool.Requires pool name before looking (.ok found) seen)
    (answered : Answered world
      (looking ++ .ofVolume (.queryMount found.device) (.ok current) :: rest) last) :
    ∃ middle, Looked world middle name found.device current ∧ Answered middle rest last := by
  obtain ⟨first, looked, asking⟩ := Answered.append_iff.1 answered
  obtain ⟨middle, queried, following⟩ := Answered.cons_iff.1 asking
  obtain ⟨lists, ⟨size, target⟩, there, rfl⟩ := requires_ok required looked
  obtain ⟨queries, shown⟩ := queried.query_ok
  rw [nameOf_listed valid, requires_stored_eq required looked, there] at shown
  cases shown
  refine ⟨middle, ?_, following⟩
  exact {
    named := nameOf_listed valid world.volumes _
    lists := lists
    queries := fun fails => queries ((looked.fails_iff .queryMount).2 fails)
    there := ⟨size, there⟩
    kept := (queried.stored_eq_of_query name).trans (requires_stored_eq required looked name)
    same := fun op => (queried.fails_iff op).trans (looked.fails_iff op) }

theorem fails_of_unqueried {device : Path}
    (answered : Answered world
      (looking ++ [.ofVolume (.queryMount device) (.error failure)]) last) :
    world.Fails .queryMount := by
  obtain ⟨middle, looked, queried⟩ := Answered.append_iff.1 answered
  exact (looked.fails_iff .queryMount).1 queried.query_error

/-- A volume that is stored is found again after one call more, where it could be listed before. -/
theorem Looked.found_again {middle changed : Backends} {exchange : Exchange backends}
    {device : Path} {current : Option Path} {stored : StoredVolume}
    (looked : Looked world middle name device current)
    (answered : Answered middle [exchange] changed) (there : changed.stored name = some stored)
    (requires : Pool.Requires pool name before looking (.error failure) after)
    (relisted : Answered changed looking last) : False := by
  rcases requires_error requires relisted with unlisted | notThere
  · exact looked.lists ((looked.same .list).1 ((answered.fails_iff .list).1 unlisted))
  · rw [there] at notThere
    cases notThere

end Looks

/-- A volume that is made sure to be mounted at a path is stored as mounted there. -/
theorem mounts_ok (valid : checkVolumeId name = .ok ()) {volume : Volume}
    (mounts : Pool.Mounts pool name target before exchanges (.ok volume) after)
    (answered : Answered world exchanges last) :
    ∃ size place, last.stored name = some ⟨size, some place⟩ ∧ place.same target = true := by
  cases mounts with
  | @already looking found seen place required same =>
    obtain ⟨middle, looked, ended⟩ := looked_of_requires valid required answered
    cases ended
    obtain ⟨size, there⟩ := looked.there
    exact ⟨size, place, looked.kept.trans there, same⟩
  | mounted required listed =>
    obtain ⟨middle, looked, following⟩ := looked_of_requires valid required answered
    obtain ⟨third, changed, relisted⟩ := Answered.cons_iff.1 following
    obtain ⟨size, there⟩ := changed.mount_ok
    rw [looked.named] at there
    exact ⟨size, target, (requires_stored_eq listed relisted name).trans there,
      target.same_refl⟩

/-- Making sure that a volume is mounted fails only where the volume is not there or is mounted
elsewhere, or a call for it was told to fail. -/
theorem mounts_error (valid : checkVolumeId name = .ok ()) {failure : Failure}
    (mounts : Pool.Mounts pool name target before exchanges (.error failure) after)
    (answered : Answered world exchanges last) :
    world.stored name = none ∨
      (∃ size place, world.stored name = some ⟨size, some place⟩ ∧ place.same target = false) ∨
      world.Fails .list ∨ world.Fails .queryMount ∨ world.Fails .mount := by
  cases mounts with
  | missing required =>
    rcases requires_error required answered with unlisted | notThere
    · exact Or.inr (Or.inr (Or.inl unlisted))
    · exact Or.inl notThere
  | unqueried failure required =>
    exact Or.inr (Or.inr (Or.inr (Or.inl (fails_of_unqueried answered))))
  | @elsewhere looking found seen place required other =>
    obtain ⟨middle, looked, _⟩ := looked_of_requires valid required answered
    obtain ⟨size, there⟩ := looked.there
    exact Or.inr (Or.inl ⟨size, place, there, other⟩)
  | refused failure required =>
    obtain ⟨middle, looked, changed⟩ := looked_of_requires valid required answered
    obtain ⟨size, there⟩ := looked.there
    have refused := changed.mount_error
    rw [looked.named, looked.kept, there] at refused
    rcases refused with fails | notThere | taken
    · exact Or.inr (Or.inr (Or.inr (Or.inr ((looked.same .mount).1 fails))))
    · cases notThere
    · cases taken
  | mounted required listed =>
    obtain ⟨middle, looked, following⟩ := looked_of_requires valid required answered
    obtain ⟨third, changed, relisted⟩ := Answered.cons_iff.1 following
    obtain ⟨size, there⟩ := changed.mount_ok
    rw [looked.named] at there
    exact (looked.found_again changed there listed relisted).elim

/-- A volume that is made sure not to be mounted is stored as not mounted. -/
theorem unmounts_ok (valid : checkVolumeId name = .ok ()) {volume : Volume}
    (unmounts : Pool.Unmounts pool name before exchanges (.ok volume) after)
    (answered : Answered world exchanges last) :
    ∃ size, last.stored name = some ⟨size, none⟩ := by
  cases unmounts with
  | already required =>
    obtain ⟨middle, looked, ended⟩ := looked_of_requires valid required answered
    cases ended
    obtain ⟨size, there⟩ := looked.there
    exact ⟨size, looked.kept.trans there⟩
  | unmounted place required listed =>
    obtain ⟨middle, looked, following⟩ := looked_of_requires valid required answered
    obtain ⟨third, changed, relisted⟩ := Answered.cons_iff.1 following
    obtain ⟨_, size, there⟩ := changed.unmount_ok
    rw [looked.named] at there
    exact ⟨size, (requires_stored_eq listed relisted name).trans there⟩

/-- Making sure that a volume is not mounted fails only where the volume is not there or a call for
it was told to fail. -/
theorem unmounts_error (valid : checkVolumeId name = .ok ()) {failure : Failure}
    (unmounts : Pool.Unmounts pool name before exchanges (.error failure) after)
    (answered : Answered world exchanges last) :
    world.stored name = none ∨ world.Fails .list ∨ world.Fails .queryMount ∨
      world.Fails .unmount := by
  cases unmounts with
  | missing required =>
    rcases requires_error required answered with unlisted | notThere
    · exact Or.inr (Or.inl unlisted)
    · exact Or.inl notThere
  | unqueried failure required =>
    exact Or.inr (Or.inr (Or.inl (fails_of_unqueried answered)))
  | refused place failure required =>
    obtain ⟨middle, looked, changed⟩ := looked_of_requires valid required answered
    obtain ⟨size, there⟩ := looked.there
    have refused := changed.unmount_error
    rw [looked.named, looked.kept, there] at refused
    rcases refused with fails | free
    · exact Or.inr (Or.inr (Or.inr ((looked.same .unmount).1 fails)))
    · cases free
  | unmounted place required listed =>
    obtain ⟨middle, looked, following⟩ := looked_of_requires valid required answered
    obtain ⟨third, changed, relisted⟩ := Answered.cons_iff.1 following
    obtain ⟨_, size, there⟩ := changed.unmount_ok
    rw [looked.named] at there
    exact (looked.found_again changed there listed relisted).elim

/-- Where a mounted volume was unmounted, none of the calls for that was told to fail. -/
theorem works_of_unmounts_ok (valid : checkVolumeId name = .ok ()) {volume : Volume}
    (unmounts : Pool.Unmounts pool name before exchanges (.ok volume) after)
    (answered : Answered world exchanges last) {size : Size} {place : Path}
    (mounted : world.stored name = some ⟨size, some place⟩) :
    ¬world.Fails .list ∧ ¬world.Fails .queryMount ∧ ¬world.Fails .unmount := by
  cases unmounts with
  | already required =>
    obtain ⟨middle, looked, ended⟩ := looked_of_requires valid required answered
    obtain ⟨_, there⟩ := looked.there
    rw [mounted] at there
    cases there
  | unmounted place required listed =>
    obtain ⟨middle, looked, following⟩ := looked_of_requires valid required answered
    obtain ⟨third, changed, relisted⟩ := Answered.cons_iff.1 following
    exact ⟨looked.lists, looked.queries, fun fails =>
      changed.unmount_ok.1 ((looked.same .unmount).2 fails)⟩

/-- A volume that is present is shown as it is stored. -/
theorem presents_ok {least : Size} {presence : Pool.Presence}
    (presents : Pool.Presents pool name least before exchanges (.ok presence) after)
    (answered : Answered world exchanges last) :
    ∃ stored, last.stored name = some stored ∧ presence.volume.mounted = stored.target.isSome ∧
      presence.volume.target = stored.target := by
  cases presents with
  | created volumes notThere required | extended volumes existing there smaller required =>
    obtain ⟨first, listed, following⟩ := Answered.cons_iff.1 answered
    obtain ⟨second, changed, relisted⟩ := Answered.cons_iff.1 following
    obtain ⟨_, stored, there, rfl⟩ := requires_ok required relisted
    exact ⟨stored, (requires_stored_eq required relisted name).trans there, rfl, rfl⟩
  | unchanged volumes existing there =>
    have shown := answered.list_ok.2 name
    rw [there] at shown
    obtain ⟨stored, found, rfl⟩ := Option.map_eq_some_iff.1 shown.symm
    have kept : last.stored name = world.stored name := by
      refine answered.stored_eq fun exchange member => ?_
      rw [List.mem_singleton.1 member]
      exact id
    exact ⟨stored, kept.trans found, rfl, rfl⟩

/-- A volume that is found is shown as it is stored. -/
theorem finds_ok {found : Option Volume}
    (finds : Pool.Finds pool name before exchanges (.ok found) after)
    (answered : Answered world exchanges last) :
    ¬world.Fails .list ∧ found = (world.stored name).map (world.volumes.listed name) ∧
      ∀ other, last.stored other = world.stored other := by
  cases finds with
  | listed volumes =>
    obtain ⟨works, shown⟩ := answered.list_ok
    refine ⟨works, shown name, fun other => answered.stored_eq fun exchange member => ?_⟩
    rw [List.mem_singleton.1 member]
    exact id

end Operations

end Memory

end NodeAgent
