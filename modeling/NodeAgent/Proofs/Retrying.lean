/-
This file asks when a publish can be repeated after a failure. Nothing fails any more, but what the
failed calls left behind is still there: a volume that is half made, a volume that is mounted at the
staging path, a snapshot that could not be unmounted, a mark. The publish then comes out well
exactly where nothing that is still mounted stands in its way. A snapshot that was left mounted
always does, since no call ever unmounts it.
-/

import NodeAgent.Proofs.Growth
import NodeAgent.Proofs.Moving
import NodeAgent.Proofs.Outage
import NodeAgent.Proofs.Selecting

namespace NodeAgent.Memory

open Operation

variable {settings : Settings} {start world middle last : Backends} {agent after : Agent}
  {now : Instant} {volume name : String} {target : Path} {pool : ThinPool}
  {exchanges : List (Exchange backends)} {before final : Roster}

/-! ### One answer -/

namespace Answered

/-- A volume that could be created was not there before, and nothing else changed. -/
theorem volumes_of_create {size : Size}
    (answered : Answered world [.ofVolume (.create pool name size) (.ok ())] last) :
    world.stored name = none ∧
      last.volumes.volumes = world.volumes.volumes.insert name ⟨size, none⟩ := by
  obtain ⟨_, performed⟩ := answered.perform_of_ok rfl
  change VolumeStore.create _ name size = _ at performed
  unfold VolumeStore.create at performed
  split at performed
  · cases performed
  next absent =>
  dsimp only at performed
  split at performed
  · cases performed
  · rw [← (Prod.mk.inj performed).2]
    unfold Backends.stored
    exact ⟨by simpa [Table.contains] using absent, rfl⟩

theorem create_ok {size : Size}
    (answered : Answered world [.ofVolume (.create pool name size) (.ok ())] last) :
    world.stored name = none ∧ last.stored name = some ⟨size, none⟩ := by
  obtain ⟨absent, written⟩ := answered.volumes_of_create
  refine ⟨absent, ?_⟩
  unfold Backends.stored
  rw [written]
  exact Table.get?_insert_self _ _ _

theorem create_error {size : Size} {failure : Failure}
    (answered : Answered world [.ofVolume (.create pool name size) (.error failure)] last) :
    world.Fails .create ∨ world.Fails .format ∨ (world.stored name).isSome = true := by
  rcases answered.perform_of_error rfl with fails | performed
  · exact Or.inl fails
  · change VolumeStore.create _ name size = _ at performed
    unfold VolumeStore.create at performed
    refine Or.inr ?_
    split at performed
    · next there => exact Or.inr there
    · dsimp only at performed
      split at performed
      · next fails => exact Or.inl fails
      · cases performed

/-- A volume that is extended stays where it is mounted, and nothing else changes. -/
theorem volumes_of_extend {size : Size}
    (answered : Answered world [.ofVolume (.extend pool name size) (.ok ())] last) :
    ∃ stored, world.stored name = some stored ∧
      last.volumes.volumes = world.volumes.volumes.insert name { stored with size } := by
  obtain ⟨_, performed⟩ := answered.perform_of_ok rfl
  change VolumeStore.extend _ name size = _ at performed
  unfold VolumeStore.extend at performed
  split at performed
  · next stored there =>
    rw [← (Prod.mk.inj performed).2]
    exact ⟨stored, there, rfl⟩
  · cases performed

theorem extend_ok {size : Size}
    (answered : Answered world [.ofVolume (.extend pool name size) (.ok ())] last) :
    ∃ stored, world.stored name = some stored ∧ last.stored name = some { stored with size } := by
  obtain ⟨stored, there, written⟩ := answered.volumes_of_extend
  refine ⟨stored, there, ?_⟩
  unfold Backends.stored
  rw [written]
  exact Table.get?_insert_self _ _ _

theorem extend_error {size : Size} {failure : Failure}
    (answered : Answered world [.ofVolume (.extend pool name size) (.error failure)] last) :
    world.Fails .extend ∨ world.stored name = none := by
  rcases answered.perform_of_error rfl with fails | performed
  · exact Or.inl fails
  · change VolumeStore.extend _ name size = _ at performed
    unfold VolumeStore.extend at performed
    split at performed
    · cases performed
    · next notThere => exact Or.inr notThere

theorem copyTree_error {source place : Path} {failure : Failure}
    (answered : Answered world [.ofVolume (.copyTree source place) (.error failure)] last) :
    world.Fails .copyTree := by
  rcases answered.perform_of_error rfl with fails | performed
  · exact fails
  · cases performed

theorem mountSnapshot_iff {destination : Destination} {snapshot : Snapshot} {point : Path}
    {given : Except Failure Path} (serves : world.repositories.failing = [])
    (answered :
      Answered world [.ofRepository (.mountSnapshot destination snapshot point) given] last) :
    given.isOk = true ↔ world.served point = none := by
  obtain ⟨rfl, _⟩ := answered.eq_repositoryAnswer
  unfold Backends.served RepositoryStore.answer RepositoryStore.unlessTold RepositoryStore.mount
  simp only [serves, List.not_mem_nil, if_false, Table.contains]
  cases world.repositories.mounts.get? point.canonical <;> simp [Except.isOk, Except.toBool]

theorem unmountSnapshot_ok {destination : Destination} {point : Path}
    {given : Except Failure Unit} (serves : world.repositories.failing = [])
    (mounted : (world.served point).isSome = true)
    (answered : Answered world [.ofRepository (.unmountSnapshot destination point) given] last) :
    given = .ok () := by
  obtain ⟨rfl, _⟩ := answered.eq_repositoryAnswer
  unfold RepositoryStore.answer RepositoryStore.unlessTold RepositoryStore.unmount
  unfold Backends.served at mounted
  simp only [serves, List.not_mem_nil, if_false, Table.contains, mounted, if_true]

end Answered

/-! ### The volume -/

/-- A listing changes nothing, and it shows whether a volume is stored. -/
theorem Answered.listed {volumes : List Volume}
    (answered : Answered world [.ofVolume (.list pool) (.ok volumes)] last) (name : String) :
    last.stored name = world.stored name ∧
      (((Pool.rosterOf volumes).get? name).isSome = true ↔
        (world.stored name).isSome = true) := by
  refine ⟨answered.stored_eq (List.forall_mem_singleton.2 id), ?_⟩
  rw [answered.list_ok.2 name, Option.isSome_map]

/-- Where the volume tools work, a volume is made present, and it stays mounted where it is. -/
theorem presented_of_presents {least : Size} {outcome : Except Failure Pool.Presence}
    (works : ∀ op, ¬world.Fails op) (positive : 0 < least.bytes)
    (presents : Pool.Presents pool name least before exchanges outcome final)
    (answered : Answered world exchanges last) :
    ∃ presence, outcome = .ok presence ∧ (presence.created = true ↔ world.stored name = none) ∧
      (last.stored name).isSome = true ∧
      last.volumes.targetOf name = world.volumes.targetOf name := by
  have targetOf (store : Backends) :
      store.volumes.targetOf name = (store.stored name).bind StoredVolume.target := rfl
  cases presents with
  | nonpositive nonpositive => exact absurd positive (Int.not_lt.2 nonpositive)
  | unlisted failure => exact absurd answered.list_error (works .list)
  | created volumes notThere required =>
    obtain ⟨first, listing, following⟩ := Answered.cons_iff.1 answered
    obtain ⟨second, creating, relisting⟩ := Answered.cons_iff.1 following
    have absent := listing.stored_eq_none_of_listed notThere
    have kept := requires_stored_eq required relisting name
    refine ⟨_, rfl, iff_of_true rfl absent, ?_⟩
    rw [targetOf, targetOf, kept, creating.create_ok.2, absent]
    exact ⟨rfl, rfl⟩
  | createdUnseen volumes notThere required =>
    obtain ⟨first, listing, following⟩ := Answered.cons_iff.1 answered
    obtain ⟨second, creating, relisting⟩ := Answered.cons_iff.1 following
    rcases requires_error required relisting with unlisted | missing
    · exact absurd unlisted (creating.works (listing.works works) .list)
    · rw [creating.create_ok.2] at missing
      cases missing
  | uncreated volumes failure notThere discarded =>
    obtain ⟨first, listing, following⟩ := Answered.cons_iff.1 answered
    obtain ⟨second, creating, _⟩ := Answered.cons_iff.1 following
    rcases creating.create_error with fails | fails | there
    · exact absurd fails (listing.works works .create)
    · exact absurd fails (listing.works works .format)
    · rw [(listing.listed name).1, listing.stored_eq_none_of_listed notThere] at there
      cases there
  | extended volumes existing there smaller required =>
    obtain ⟨first, listing, following⟩ := Answered.cons_iff.1 answered
    obtain ⟨second, extending, relisting⟩ := Answered.cons_iff.1 following
    obtain ⟨stored, held, grown⟩ := extending.extend_ok
    rw [(listing.listed name).1] at held
    have kept := requires_stored_eq required relisting name
    refine ⟨_, rfl, iff_of_false nofun (by rw [held]; nofun), ?_⟩
    rw [targetOf, targetOf, kept, grown, held]
    exact ⟨rfl, rfl⟩
  | extendedUnseen volumes existing there smaller required =>
    obtain ⟨first, listing, following⟩ := Answered.cons_iff.1 answered
    obtain ⟨second, extending, relisting⟩ := Answered.cons_iff.1 following
    obtain ⟨stored, held, grown⟩ := extending.extend_ok
    rcases requires_error required relisting with unlisted | missing
    · exact absurd unlisted (extending.works (listing.works works) .list)
    · rw [grown] at missing
      cases missing
  | unextended volumes existing failure there smaller =>
    obtain ⟨first, listing, extending⟩ := Answered.cons_iff.1 answered
    obtain ⟨kept, seen⟩ := listing.listed name
    rw [there] at seen
    rcases extending.extend_error with fails | missing
    · exact absurd fails (listing.works works .extend)
    · rw [← kept, missing] at seen
      cases seen.1 rfl
  | unchanged volumes existing there =>
    obtain ⟨kept, seen⟩ := answered.listed name
    rw [there] at seen
    have held := seen.1 rfl
    refine ⟨_, rfl, iff_of_false nofun (Option.isSome_iff_ne_none.1 held), ?_⟩
    rw [targetOf, targetOf, kept]
    exact ⟨held, rfl⟩

/-- Where the volume tools work, a volume that is there can be mounted at a path unless it is
mounted elsewhere. -/
theorem isOk_of_mounts_iff {outcome : Except Failure Volume} (valid : checkVolumeId volume = .ok ())
    (works : ∀ op, ¬world.Fails op) (there : (world.stored volume).isSome = true)
    (mounts : Pool.Mounts pool volume target before exchanges outcome final)
    (answered : Answered world exchanges last) :
    outcome.isOk = true ↔
      ∀ place, world.volumes.targetOf volume = some place → place.same target = true := by
  have targetOf : world.volumes.targetOf volume =
      (world.stored volume).bind StoredVolume.target := rfl
  cases outcome with
  | error failure =>
    refine iff_of_false nofun fun free => ?_
    rcases mounts_error valid mounts answered with
      missing | ⟨size, place, mounted, other⟩ | fails | fails | fails
    · rw [missing] at there
      cases there
    · rw [free place (by rw [targetOf, mounted]; rfl)] at other
      cases other
    all_goals exact absurd fails (works _)
  | ok found =>
    refine iff_of_true rfl fun place mounted => ?_
    cases mounts with
    | already required same =>
      obtain ⟨_, looked, _⟩ := looked_of_requires valid required answered
      obtain ⟨size, held⟩ := looked.there
      rw [targetOf, held] at mounted
      cases mounted
      exact same
    | mounted required listed =>
      obtain ⟨_, looked, _⟩ := looked_of_requires valid required answered
      obtain ⟨size, held⟩ := looked.there
      rw [targetOf, held] at mounted
      cases mounted

/-! ### Filling -/

/-- Some destination has a snapshot. -/
def Backends.Offers (world : Backends) (destinations : List Destination) : Prop :=
  ∃ destination ∈ destinations,
    (world.repositories.snapshots.get? destination.repository).getD [] ≠ []

/-- Nothing stands in the way of a restore: the volume is not mounted except at the staging path,
and no snapshot is mounted at its snapshot point. -/
def Backends.StagingFree (world : Backends) (settings : Settings) (volume : String) : Prop :=
  (∀ place, world.volumes.targetOf volume = some place →
    place.same (settings.volumePoint volume) = true) ∧
  world.served (settings.snapshotPoint volume) = none

/-- Where the repositories work, a source is selected just where there is a snapshot. -/
theorem isSome_selected_iff {destinations : List Destination} {selected : Option Source}
    (serves : world.repositories.failing = [])
    (held : Dialogue.Held (Selection.select volume destinations now) exchanges selected)
    (answered : Answered world exchanges last) :
    selected.isSome = true ↔ world.Offers destinations := by
  obtain ⟨answers, rfl, rfl, chosen⟩ := Selection.held_select_iff.1 held
  rw [answers_of_answered answered] at chosen
  have selects := Selection.selects_answers_iff.1 chosen
  have holding (destination : Destination) : world.repositories.holding destination =
      (destination, .ok ((world.repositories.snapshots.get? destination.repository).getD [])) := by
    unfold RepositoryStore.holding
    dsimp only
    rw [RepositoryStore.fst_unlessTold, serves, if_neg List.not_mem_nil]
  constructor
  · intro found
    obtain ⟨source, rfl⟩ := Option.isSome_iff_exists.1 found
    obtain ⟨place, ⟨listing, there, listed⟩, _⟩ := selects
    rw [List.getElem?_map] at there
    obtain ⟨destination, member, same⟩ := Option.map_eq_some_iff.1 there
    rw [holding] at same
    cases same
    refine ⟨source.destination, List.mem_of_getElem? member, fun empty => ?_⟩
    rw [empty] at listed
    cases listed
  · rintro ⟨destination, member, nonempty⟩
    obtain ⟨position, there⟩ := List.mem_iff_getElem?.1 member
    obtain ⟨snapshot, rest, listing⟩ := List.exists_cons_of_ne_nil nonempty
    by_contra nothing
    rw [Bool.not_eq_true, Option.isSome_eq_false_iff, Option.isNone_iff_eq_none] at nothing
    subst nothing
    refine selects (position, 0) ⟨destination, snapshot⟩ ⟨snapshot :: rest, ?_, rfl⟩
    rw [List.getElem?_map, there, Option.map_some, holding, listing]

/-- Where everything works, a restore comes out well just where nothing stands in its way, and it
leaves the volume unmounted. -/
theorem isOk_of_restore_iff {source : Source} {outcome : Except Failure Unit}
    (valid : checkVolumeId volume = .ok ()) (works : ∀ op, ¬world.Fails op)
    (serves : world.repositories.failing = []) (there : (world.stored volume).isSome = true)
    (restoration : Converses (Restore.restore settings.pool volume source
      (settings.volumePoint volume) (settings.snapshotPoint volume)) before exchanges outcome final)
    (answered : Answered world exchanges last) :
    (outcome.isOk = true ↔ world.StagingFree settings volume) ∧
      (outcome.isOk = true → ∃ size, last.stored volume = some ⟨size, none⟩) := by
  unfold Backends.StagingFree
  have spares {place : Path} {roster after : Roster} {staging : List (Exchange backends)}
      {ended : Except Failure Volume} (staged : Converses
        (Pool.ensureMounted settings.pool volume place) roster staging ended after) :
      ∀ exchange ∈ staging,
        ¬Call.TouchesPoint (settings.snapshotPoint volume).canonical exchange.question :=
    fun exchange member =>
      (Pool.asksOnly_ensureMounted staged exchange member).isUpkeep.not_touchesPoint _
  cases Restore.restores_of_converses restoration with
  | unstaged refused =>
    have elsewhere :=
      isOk_of_mounts_iff valid works there (Pool.mounts_of_converses refused) answered
    exact ⟨iff_of_false nofun (fun free => nomatch elsewhere.2 free.1), nofun⟩
  | unserved failure staged released =>
    obtain ⟨first, staging, following⟩ := Answered.append_iff.1 answered
    obtain ⟨second, serving, _⟩ := Answered.cons_iff.1 following
    have busy := serving.mountSnapshot_iff (staging.sameSetup.repositoryFailures.trans serves)
    rw [staging.served_eq (spares staged)] at busy
    exact ⟨iff_of_false nofun (fun free => nomatch busy.2 free.2), nofun⟩
  | @copied _ _ _ _ freed _ content copy release staged released =>
    obtain ⟨first, staging, following⟩ := Answered.append_iff.1 answered
    obtain ⟨second, serving, following⟩ := Answered.cons_iff.1 following
    obtain ⟨third, copying, following⟩ := Answered.cons_iff.1 following
    obtain ⟨fourth, unserving, freeing⟩ := Answered.cons_iff.1 following
    have placed :=
      isOk_of_mounts_iff valid works there (Pool.mounts_of_converses staged) staging
    have idle := serving.mountSnapshot_iff (staging.sameSetup.repositoryFailures.trans serves)
    rw [staging.served_eq (spares staged)] at idle
    obtain ⟨size, place, mounted, _⟩ :=
      mounts_ok valid (Pool.mounts_of_converses staged) staging
    have still : fourth.stored volume = some ⟨size, some place⟩ := by
      rw [unserving.stored_eq (List.forall_mem_singleton.2 id),
        copying.stored_eq (List.forall_mem_singleton.2 id),
        serving.stored_eq (List.forall_mem_singleton.2 id), mounted]
    have worksNow := unserving.works (copying.works (serving.works (staging.works works)))
    have copied : copy = .ok () := by
      cases copy with
      | ok _ => rfl
      | error failure =>
        exact absurd copying.copyTree_error (serving.works (staging.works works) .copyTree)
    have unserved : release = .ok () := by
      refine unserving.unmountSnapshot_ok ?_ ?_
      · rw [copying.sameSetup.repositoryFailures, serving.sameSetup.repositoryFailures,
          staging.sameSetup.repositoryFailures, serves]
      · obtain ⟨_, ⟨spelled, served⟩, _⟩ := serving.mountSnapshot_ok
        rw [copying.served_eq (List.forall_mem_singleton.2 id), served]
        rfl
    have freedWell : freed.isOk = true :=
      isOk_of_unmounts valid worksNow (by rw [still]; rfl) (Pool.unmounts_of_converses released)
        freeing
    cases freed with
    | error failure => cases freedWell
    | ok found =>
      rw [copied, unserved]
      exact ⟨iff_of_true rfl ⟨placed.1 rfl, idle.1 rfl⟩,
        fun _ => unmounts_ok valid (Pool.unmounts_of_converses released) freeing⟩

theorem Backends.targetOf_congr (same : last.stored name = world.stored name) :
    last.volumes.targetOf name = world.volumes.targetOf name :=
  congrArg (·.bind StoredVolume.target) same

theorem Backends.StagingFree.congr (stored : last.stored volume = world.stored volume)
    (served : last.served (settings.snapshotPoint volume) =
      world.served (settings.snapshotPoint volume)) :
    last.StagingFree settings volume ↔ world.StagingFree settings volume := by
  unfold Backends.StagingFree
  rw [Backends.targetOf_congr stored, served]

/-- Where everything works, filling a volume comes out well and leaves the volume unmounted if
nothing stands in the way of the restore, and where there is nothing to restore it does nothing. -/
theorem isOk_of_fills_iff {due : Bool} {how : Filling} (valid : checkVolumeId volume = .ok ())
    (works : ∀ op, ¬world.Fails op) (serves : world.repositories.failing = [])
    (there : (world.stored volume).isSome = true)
    (fills : Agent.Fills settings now volume before due exchanges how final)
    (answered : Answered world exchanges last) :
    (due = true ∧ world.Offers settings.destinations →
      (how.outcome.isOk = true ↔ world.StagingFree settings volume) ∧
        (how.outcome.isOk = true → ∃ size, last.stored volume = some ⟨size, none⟩)) ∧
    (¬(due = true ∧ world.Offers settings.destinations) →
      how.outcome.isOk = true ∧ last.stored volume = world.stored volume) := by
  have spares {asking : List (Exchange backends)} {selected : Option Source}
      (held : Dialogue.Held (Selection.select volume settings.destinations now) asking selected) :
      (∀ exchange ∈ asking, ¬Call.Touches volume exchange.question) ∧
        ∀ exchange ∈ asking, ∀ key, ¬Call.TouchesPoint key exchange.question := by
    refine ⟨fun exchange member => ?_, fun exchange member key => ?_⟩
    all_goals
      obtain ⟨destination, asked⟩ := Selection.mem_of_select held exchange member
      rw [asked]
      exact id
  cases fills with
  | unfilled =>
    cases answered
    exact ⟨fun both => absurd both.1 nofun, fun _ => ⟨rfl, rfl⟩⟩
  | nothingFound selected =>
    have offers := isSome_selected_iff serves selected answered
    refine ⟨fun both => absurd (offers.2 both.2) nofun, fun _ => ⟨rfl, ?_⟩⟩
    exact answered.stored_eq (spares selected).1
  | restored selected restoration | broken selected restoration =>
    obtain ⟨middle, asking, restoring⟩ := Answered.append_iff.1 answered
    have offers := (isSome_selected_iff serves selected asking).1 rfl
    have sameStored := asking.stored_eq (spares selected).1
    have sameServed : middle.served (settings.snapshotPoint volume) =
        world.served (settings.snapshotPoint volume) :=
      asking.served_eq fun exchange member => (spares selected).2 exchange member _
    have restored := isOk_of_restore_iff valid (asking.works works)
      (asking.sameSetup.repositoryFailures.trans serves) (by rw [sameStored]; exact there)
      restoration restoring
    rw [Backends.StagingFree.congr sameStored sameServed] at restored
    exact ⟨fun _ => restored, fun refills => absurd ⟨rfl, offers⟩ refills⟩

/-! ### Publishing -/

/-- The volume is due to be filled and there is a snapshot to fill it from. -/
def Backends.Refills (world : Backends) (settings : Settings) (agent : Agent) (volume : String) :
    Prop :=
  (world.stored volume = none ∨ agent.pending.contains volume = true ∨
    settings.policy = .always) ∧
  world.Offers settings.destinations

/-- Nothing that is mounted stands in the way of a publish: the volume is mounted at the target
already; or it is to be filled and nothing stands in the way of that; or it is not to be filled and
is not mounted. -/
def Backends.Accepts (world : Backends) (settings : Settings) (agent : Agent) (volume : String)
    (target : Path) : Prop :=
  world.MountedAt volume target ∨
    (world.Refills settings agent volume ∧ world.StagingFree settings volume) ∨
    (¬world.Refills settings agent volume ∧ world.volumes.targetOf volume = none)

theorem Backends.mountedAt_iff (world : Backends) (volume : String) (place : Path) :
    world.MountedAt volume place ↔
      ∃ target, world.volumes.targetOf volume = some target ∧ target.same place = true := by
  have targetOf : world.volumes.targetOf volume =
      (world.stored volume).bind StoredVolume.target := rfl
  unfold Backends.MountedAt
  rw [targetOf]
  constructor
  · rintro ⟨size, target, stored, same⟩
    exact ⟨target, by rw [stored]; rfl, same⟩
  · rintro ⟨target, found, same⟩
    obtain ⟨⟨size, placed⟩, stored, rfl⟩ := Option.bind_eq_some_iff.1 found
    exact ⟨size, target, stored, same⟩

/-- What is known once a volume was made present where everything works: the volume is there and
mounted as before, and what is needed to fill it is as before. -/
structure Presented (world middle : Backends) (settings : Settings) (volume : String)
    (presence : Pool.Presence) : Prop where
  works : ∀ op, ¬middle.Fails op
  serves : middle.repositories.failing = []
  there : (middle.stored volume).isSome = true
  placed : middle.volumes.targetOf volume = world.volumes.targetOf volume
  served : middle.served (settings.snapshotPoint volume) =
    world.served (settings.snapshotPoint volume)
  offers : middle.Offers settings.destinations ↔ world.Offers settings.destinations
  created : presence.created = true ↔ world.stored volume = none
  shown : ∀ target, presence.volume.isMountedAt target = true ↔ world.MountedAt volume target

theorem presented_of_converses {presence : Pool.Presence} {least : Size}
    (works : ∀ op, ¬world.Fails op) (serves : world.repositories.failing = [])
    (positive : 0 < least.bytes)
    (present : Converses (Pool.ensurePresent settings.pool volume least) before exchanges
      (.ok presence) final)
    (answered : Answered world exchanges last) :
    Presented world last settings volume presence := by
  have presents := Pool.presents_of_converses present
  obtain ⟨_, same, created, there, placed⟩ :=
    presented_of_presents works positive presents answered
  cases same
  refine {
    works := answered.works works
    serves := answered.sameSetup.repositoryFailures.trans serves
    there := there
    placed := placed
    served := answered.served_eq fun exchange member =>
      (Pool.asksOnly_ensurePresent present exchange member).not_touchesPoint _
    offers := by
      unfold Backends.Offers
      rw [answered.sameSetup.snapshots]
    created := created
    shown := fun target => ?_ }
  obtain ⟨stored, found, sameMounted, sameTarget⟩ := presents_ok presents answered
  rw [Backends.mountedAt_iff, ← placed, Backends.targetOf_of_stored found]
  unfold Volume.isMountedAt
  rw [sameMounted, sameTarget]
  cases stored.target with
  | none => exact iff_of_false nofun nofun
  | some place => simp

theorem checkPublish_of_valid {capacity : Option Int} (valid : checkVolumeId volume = .ok ())
    (absolute : target.isAbsolute = true)
    (positive : 0 < (Agent.sizeFor settings capacity).bytes) :
    Agent.checkPublish settings volume target capacity = .ok () := by
  unfold Agent.checkPublish
  rw [valid, checkTargetPath_of_isAbsolute absolute]
  exact if_neg (Int.not_le.2 positive)

theorem accepts_iff_of_refills (elsewhere : ¬world.MountedAt volume target)
    (refills : world.Refills settings agent volume) :
    world.Accepts settings agent volume target ↔ world.StagingFree settings volume := by
  unfold Backends.Accepts
  simp only [elsewhere, refills, true_and, not_true, false_and, or_false, false_or]

theorem accepts_iff_of_not_refills (elsewhere : ¬world.MountedAt volume target)
    (keeps : ¬world.Refills settings agent volume) :
    world.Accepts settings agent volume target ↔ world.volumes.targetOf volume = none := by
  unfold Backends.Accepts
  simp only [elsewhere, keeps, not_false_iff, true_and, false_and, false_or]

section AfterPresence

variable {presence : Pool.Presence} {how : Filling} {filling mounting : List (Exchange backends)}
  {filled : Backends} {between : Roster} {ended : Except Failure Volume}

/-- What filling comes to, in terms of what there was before the volume was made present. -/
theorem Presented.fills_cases (presented : Presented world middle settings volume presence)
    (valid : checkVolumeId volume = .ok ())
    (fills : Agent.Fills settings now volume before (agent.fills settings volume presence) filling
      how between)
    (answered : Answered middle filling filled) :
    (world.Refills settings agent volume →
      (how.outcome.isOk = true ↔ world.StagingFree settings volume) ∧
        (how.outcome.isOk = true → ∃ size, filled.stored volume = some ⟨size, none⟩)) ∧
    (¬world.Refills settings agent volume →
      how.outcome.isOk = true ∧ filled.stored volume = middle.stored volume) := by
  have due : agent.fills settings volume presence = true ↔
      world.stored volume = none ∨ agent.pending.contains volume = true ∨
        settings.policy = .always := by
    unfold Agent.fills
    rw [Bool.or_eq_true, Bool.or_eq_true, decide_eq_true_iff, presented.created, or_assoc]
  have refills : (agent.fills settings volume presence = true ∧
      middle.Offers settings.destinations) ↔ world.Refills settings agent volume := by
    unfold Backends.Refills
    rw [due, presented.offers]
  have free : middle.StagingFree settings volume ↔ world.StagingFree settings volume := by
    unfold Backends.StagingFree
    rw [presented.placed, presented.served]
  rw [← refills, ← free]
  exact isOk_of_fills_iff valid presented.works presented.serves presented.there fills answered

theorem Presented.elsewhere (presented : Presented world middle settings volume presence)
    (notThere : presence.volume.isMountedAt target = false) :
    ¬world.MountedAt volume target := by
  rw [← presented.shown, notThere]
  exact Bool.false_ne_true

/-- Where filling fails, something stood in the way. -/
theorem Presented.not_accepts (presented : Presented world middle settings volume presence)
    (valid : checkVolumeId volume = .ok ())
    (notThere : presence.volume.isMountedAt target = false)
    (fills : Agent.Fills settings now volume before (agent.fills settings volume presence) filling
      how between)
    (fails : how.outcome.isOk = false) (answered : Answered middle filling filled) :
    ¬world.Accepts settings agent volume target := by
  obtain ⟨restored, untouched⟩ := presented.fills_cases valid fills answered
  have elsewhere := presented.elsewhere notThere
  by_cases refills : world.Refills settings agent volume
  · rw [accepts_iff_of_refills elsewhere refills, ← (restored refills).1, fails]
    exact Bool.false_ne_true
  · rw [(untouched refills).1] at fails
    cases fails

/-- Where filling comes out well, the final mount does so just where nothing stood in the way. -/
theorem Presented.isOk_iff_accepts (presented : Presented world middle settings volume presence)
    (valid : checkVolumeId volume = .ok ())
    (notThere : presence.volume.isMountedAt target = false)
    (fills : Agent.Fills settings now volume before (agent.fills settings volume presence) filling
      how between)
    (well : how.outcome.isOk = true) (answered : Answered middle filling filled)
    (mounted : Converses (Pool.ensureMounted settings.pool volume target) between mounting ended
      final)
    (mounting : Answered filled mounting last) :
    ended.isOk = true ↔ world.Accepts settings agent volume target := by
  obtain ⟨restored, untouched⟩ := presented.fills_cases valid fills answered
  have elsewhere := presented.elsewhere notThere
  have works := answered.works presented.works
  have mounts := Pool.mounts_of_converses mounted
  by_cases refills : world.Refills settings agent volume
  · obtain ⟨size, released⟩ := (restored refills).2 well
    rw [accepts_iff_of_refills elsewhere refills, ← (restored refills).1]
    exact iff_of_true (isOk_of_mounts valid works released mounts mounting) well
  · have kept := (untouched refills).2
    have there : (filled.stored volume).isSome = true := by
      rw [kept]
      exact presented.there
    rw [accepts_iff_of_not_refills elsewhere refills,
      isOk_of_mounts_iff valid works there mounts mounting, Backends.targetOf_congr kept,
      presented.placed]
    -- The volume is not mounted at the target, so it is mounted elsewhere or not at all.
    rw [Backends.mountedAt_iff] at elsewhere
    cases placed : world.volumes.targetOf volume with
    | none => exact iff_of_true nofun rfl
    | some place => exact iff_of_false (fun same => elsewhere ⟨place, placed, same place rfl⟩) nofun

end AfterPresence

theorem isOk_of_publishes_iff {capacity : Option Int} {progress : Progress}
    {outcome : Except Failure Published} (valid : checkVolumeId volume = .ok ())
    (absolute : target.isAbsolute = true)
    (positive : 0 < (Agent.sizeFor settings capacity).bytes)
    (works : ∀ op, ¬world.Fails op) (serves : world.repositories.failing = [])
    (course : Agent.Publishes settings now volume target capacity agent exchanges progress outcome
      after)
    (answered : Answered world exchanges last) :
    (outcome.isOk = true ↔ world.Accepts settings agent volume target) ∧
      (outcome.isOk = true → last.MountedAt volume target) := by
  cases course with
  | refused invalid =>
    rw [checkPublish_of_valid valid absolute positive] at invalid
    cases invalid
  | absent _ lacking =>
    obtain ⟨_, same, _⟩ :=
      presented_of_presents works positive (Pool.presents_of_converses lacking) answered
    cases same
  | alreadyMounted _ present there =>
    have presented : Presented world last settings volume _ :=
      presented_of_converses works serves positive present answered
    have mounted := (presented.shown target).1 there
    refine ⟨iff_of_true rfl (Or.inl mounted), fun _ => ?_⟩
    rw [Backends.mountedAt_iff, presented.placed, ← Backends.mountedAt_iff]
    exact mounted
  | broken _ present notThere fills failed =>
    obtain ⟨middle, presenting, filling⟩ := Answered.append_iff.1 answered
    have presented : Presented world middle settings volume _ :=
      presented_of_converses works serves positive present presenting
    have refused := presented.not_accepts valid notThere fills (by rw [failed]; rfl) filling
    exact ⟨iff_of_false nofun refused, nofun⟩
  | unmounted _ present notThere fills settled unmounted =>
    obtain ⟨filled, worked, mounting⟩ := Answered.append_iff.1 answered
    obtain ⟨middle, presenting, filling⟩ := Answered.append_iff.1 worked
    have presented : Presented world middle settings volume _ :=
      presented_of_converses works serves positive present presenting
    have accepts := presented.isOk_iff_accepts valid notThere fills (by rw [settled]; rfl) filling
      unmounted mounting
    exact ⟨iff_of_false nofun fun accepted => absurd (accepts.2 accepted) nofun, nofun⟩
  | mounted _ present notThere fills settled mounted =>
    obtain ⟨filled, worked, mounting⟩ := Answered.append_iff.1 answered
    obtain ⟨middle, presenting, filling⟩ := Answered.append_iff.1 worked
    have presented : Presented world middle settings volume _ :=
      presented_of_converses works serves positive present presenting
    have accepts := presented.isOk_iff_accepts valid notThere fills (by rw [settled]; rfl) filling
      mounted mounting
    exact ⟨iff_of_true rfl (accepts.1 rfl),
      fun _ => mounts_ok valid (Pool.mounts_of_converses mounted) mounting⟩

/-- A publish once nothing fails any more. Whatever earlier calls left behind, a publish of a valid
volume at an absolute path with a positive size comes out well just where nothing that is still
mounted stands in its way, and the volume is then mounted at the path. -/
theorem published_iff_accepts (settings : Settings) (agent : Agent) (world : Backends)
    (now : Instant) {capacity : Option Int} (valid : checkVolumeId volume = .ok ())
    (absolute : target.isAbsolute = true)
    (positive : 0 < (Agent.sizeFor settings capacity).bytes) :
    let held := (world.failing [] []).hold agent
      (Agent.publish settings now volume target capacity)
    (held.1.1.isOk = true ↔ world.Accepts settings agent volume target) ∧
      (held.1.1.isOk = true → held.2.MountedAt volume target) := by
  intro held
  obtain ⟨conversation, answered⟩ := (world.failing [] []).converses_hold agent
    (Agent.publish settings now volume target capacity)
  obtain ⟨progress, course⟩ := Agent.publishes_of_converses conversation
  have works : ∀ op, ¬(world.failing [] []).Fails op := fun _ => List.not_mem_nil
  have ended : (held.1.1.isOk = true ↔
        (world.failing [] []).Accepts settings agent volume target) ∧
      (held.1.1.isOk = true → held.2.MountedAt volume target) :=
    isOk_of_publishes_iff valid absolute positive works rfl course answered
  exact ended

/-! ### Two failed publishes -/

/-- What comes of one publish of the small setting while these operations fail. -/
def smallFailed (ops : List VolumeOp) (repositoryOps : List (String × RepositoryOp)) :
    List (Event × Bool) × Agent × Backends :=
  play (smallSettings .onCreate)
    [.failing ops repositoryOps, .publish smallNow "pg" ⟨"/mnt/a"⟩ none] (.fresh .empty) smallStart

theorem exists_session_smallFailed (ops : List VolumeOp)
    (repositoryOps : List (String × RepositoryOp)) :
    ∃ history, history.map accountOf = (smallFailed ops repositoryOps).1 ∧
      Session (smallSettings .onCreate) smallStart history (smallFailed ops repositoryOps).2.1
        (smallFailed ops repositoryOps).2.2 := by
  unfold smallFailed
  exact exists_session _ _ _ _

/-- A publish that could not copy is repeated and comes out well. -/
theorem published_after_failed_copy :
    ∃ history agent world, Session (smallSettings .onCreate) smallStart history agent world ∧
      history.map accountOf = [(.publish smallNow "pg" ⟨"/mnt/a"⟩ none, false)] ∧
      world.Accepts (smallSettings .onCreate) agent "pg" ⟨"/mnt/a"⟩ ∧
      ((world.failing [] []).hold agent (smallPublish .onCreate)).2.MountedAt "pg" ⟨"/mnt/a"⟩ := by
  obtain ⟨history, account, session⟩ := exists_session_smallFailed [.copyTree] []
  have failed : (smallFailed [.copyTree] []).1 =
      [(.publish smallNow "pg" ⟨"/mnt/a"⟩ none, false)] := by
    decide +kernel
  have well : (((smallFailed [.copyTree] []).2.2.failing [] []).hold
      (smallFailed [.copyTree] []).2.1 (smallPublish .onCreate)).1.1.isOk = true := by
    decide +kernel
  generalize smallFailed [.copyTree] [] = left at account session failed well
  unfold smallPublish at well ⊢
  obtain ⟨accepts, mounts⟩ := published_iff_accepts (smallSettings .onCreate) left.2.1 left.2.2
    smallNow (by decide : checkVolumeId "pg" = .ok ())
    (by decide : (Path.mk "/mnt/a").isAbsolute = true)
    (by decide : 0 < (Agent.sizeFor (smallSettings .onCreate) none).bytes)
  exact ⟨history, _, _, session, account.trans failed, accepts.1 well, mounts well⟩

/-- A publish whose snapshot could not be unmounted leaves the snapshot behind. The volume is not
mounted anywhere and nothing fails any more, but the publish cannot be repeated. -/
theorem blocked_after_failed_unmount :
    ∃ history agent world, Session (smallSettings .onCreate) smallStart history agent world ∧
      history.map accountOf = [(.publish smallNow "pg" ⟨"/mnt/a"⟩ none, false)] ∧
      world.volumes.targetOf "pg" = none ∧
      ((world.failing [] []).hold agent (smallPublish .onCreate)).1.1.isOk = false := by
  obtain ⟨history, account, session⟩ := exists_session_smallFailed [] [("repo-a", .unmount)]
  have failed : (smallFailed [] [("repo-a", .unmount)]).1 =
      [(.publish smallNow "pg" ⟨"/mnt/a"⟩ none, false)] := by
    decide +kernel
  have nowhere : (smallFailed [] [("repo-a", .unmount)]).2.2.volumes.targetOf "pg" = none := by
    decide +kernel
  have blocked : (((smallFailed [] [("repo-a", .unmount)]).2.2.failing [] []).hold
      (smallFailed [] [("repo-a", .unmount)]).2.1 (smallPublish .onCreate)).1.1.isOk = false := by
    decide +kernel
  exact ⟨history, _, _, session, account.trans failed, nowhere, blocked⟩

end NodeAgent.Memory
