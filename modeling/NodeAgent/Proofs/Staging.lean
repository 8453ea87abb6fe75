/-
This file says which mounts a call that fails takes back. A mounted snapshot is always unmounted
again. A mounted volume is unmounted where the agent sees it mounted afterwards: after the mount
the volume has to be listed, it has to be listed once more before it is released, and the look at
its device has to find it mounted. Where one of these looks fails, the volume stays mounted.
-/

import NodeAgent.Proofs.Creation
import NodeAgent.Proofs.Observing

namespace NodeAgent

open Operation

namespace Call

/-- Whether a question looks at the volumes or at a mount. -/
def isLook : Call → Bool
  | volume (.list _) | volume (.queryMount _) => true
  | _ => false

/-- Whether a question mounts a volume. -/
def IsMount : Call → Prop
  | volume (.mount _ _) => True
  | _ => False

/-- Whether a question unmounts a volume. -/
def IsUnmount : Call → Prop
  | volume (.unmount _) => True
  | _ => False

/-- Whether a question mounts a snapshot. -/
def IsSnapshotMount : Call → Prop
  | repository (.mountSnapshot _ _ _) => True
  | _ => False

/-- Whether a question neither looks at volumes nor changes them. -/
def IsAside : Call → Prop
  | volume (.copyTree _ _) | repository _ => True
  | _ => False

theorem IsUpkeep.not_isSnapshotMount {name : String} {call : Call}
    (upkeep : call.IsUpkeep name) : ¬call.IsSnapshotMount := by
  cases call with
  | volume call => exact id
  | repository call => exact absurd upkeep id

namespace IsAside

variable {call : Call}

theorem not_isMount (aside : call.IsAside) : ¬call.IsMount := by
  match call, aside with
  | .volume (.copyTree _ _), _ | .repository _, _ => exact id

theorem not_isUnmount (aside : call.IsAside) : ¬call.IsUnmount := by
  match call, aside with
  | .volume (.copyTree _ _), _ | .repository _, _ => exact id

end IsAside

end Call

/-- The looks at volumes and mounts in a conversation, in order. -/
def looksOf (exchanges : List (Exchange backends)) : List (Exchange backends) :=
  exchanges.filter fun exchange => Call.isLook exchange.question

/-- The unmounting of a device was asked for, whatever the answer. -/
def AsksUnmount (device : Path) (exchanges : List (Exchange backends)) : Prop :=
  ∃ answer, Exchange.ofVolume (.unmount device) answer ∈ exchanges

/-- The first looks show a device as mounted: two listings come, and then the look at the device
finds it mounted. -/
def SeenMounted (device : Path) (exchanges : List (Exchange backends)) : Prop :=
  ∃ (pool : ThinPool) (first second : List Volume) (place : Path) (rest : List (Exchange backends)),
    looksOf exchanges = .ofVolume (.list pool) (.ok first) ::
      .ofVolume (.list pool) (.ok second) ::
      .ofVolume (.queryMount device) (.ok (some place)) :: rest

/-- A device that was mounted is unmounted later exactly where it is seen mounted. -/
def MountsFreed (exchanges : List (Exchange backends)) : Prop :=
  ∀ ⦃early device place late⦄,
    exchanges = early ++ .ofVolume (.mount device place) (.ok ()) :: late →
    (AsksUnmount device late ↔ SeenMounted device late)

/-- A snapshot that was mounted is unmounted later. -/
def SnapshotsFreed (exchanges : List (Exchange backends)) : Prop :=
  ∀ ⦃early destination snapshot point content late⦄,
    exchanges = early ++
      .ofRepository (.mountSnapshot destination snapshot point) (.ok content) :: late →
    ∃ answer, Exchange.ofRepository (.unmountSnapshot destination point) answer ∈ late

section Records

variable {device : Path} {first second exchanges : List (Exchange backends)}

theorem looksOf_append (first second : List (Exchange backends)) :
    looksOf (first ++ second) = looksOf first ++ looksOf second :=
  List.filter_append ..

theorem asksUnmount_append :
    AsksUnmount device (first ++ second) ↔
      AsksUnmount device first ∨ AsksUnmount device second := by
  unfold AsksUnmount
  simp only [List.mem_append, exists_or]

theorem not_asksUnmount (none : ∀ exchange ∈ exchanges, ¬Call.IsUnmount exchange.question) :
    ¬AsksUnmount device exchanges :=
  fun ⟨_, member⟩ => none _ member trivial

theorem looksOf_eq_nil (aside : ∀ exchange ∈ exchanges, Call.IsAside exchange.question) :
    looksOf exchanges = [] := by
  refine List.filter_eq_nil_iff.2 fun exchange member look => ?_
  have aside := aside exchange member
  generalize exchange.question = call at aside look
  match call, aside with
  | .volume (.copyTree _ _), _ | .repository _, _ => cases look

theorem MountsFreed.of_unmounting
    (none : ∀ exchange ∈ exchanges, ¬Call.IsMount exchange.question) : MountsFreed exchanges := by
  rintro early device place late rfl
  exact absurd trivial (none _ (List.mem_append_right _ List.mem_cons_self))

/-- What mounts nothing does not count where it comes first. -/
theorem MountsFreed.append (none : ∀ exchange ∈ first, ¬Call.IsMount exchange.question)
    (freed : MountsFreed second) : MountsFreed (first ++ second) := by
  intro early device place late whole
  rcases split_cases_of_append whole with ⟨rest, rfl, _⟩ | ⟨rest, _, split⟩
  · exact absurd trivial (none _ (List.mem_append_right _ List.mem_cons_self))
  · exact freed split

theorem SnapshotsFreed.of_unmounting
    (none : ∀ exchange ∈ exchanges, ¬Call.IsSnapshotMount exchange.question) :
    SnapshotsFreed exchanges := by
  rintro early destination snapshot point content late rfl
  exact absurd trivial (none _ (List.mem_append_right _ List.mem_cons_self))

theorem SnapshotsFreed.of_mounting {name : String}
    (mounting : ∀ exchange ∈ exchanges, Call.IsMounting name exchange.question) :
    SnapshotsFreed exchanges :=
  .of_unmounting fun exchange member => (mounting exchange member).isUpkeep.not_isSnapshotMount

theorem SnapshotsFreed.append (begun : SnapshotsFreed first) (ended : SnapshotsFreed second) :
    SnapshotsFreed (first ++ second) := by
  intro early destination snapshot point content late whole
  rcases split_cases_of_append whole with ⟨rest, split, rfl⟩ | ⟨rest, _, split⟩
  · obtain ⟨answer, member⟩ := begun split
    exact ⟨answer, List.mem_append_left _ member⟩
  · exact ended split

theorem snapshotsFreed_of_refused (destination : Destination) (snapshot : Snapshot) (point : Path)
    (failure : Failure) :
    SnapshotsFreed
      [.ofRepository (.mountSnapshot destination snapshot point) (.error failure)] := by
  intro early _ _ _ _ late split
  obtain ⟨_, same, _⟩ := eq_of_split
    (fun exchange : Exchange backends => Call.IsSnapshotMount exchange.question)
    ((List.nil_append _).trans split) trivial (List.forall_mem_nil _) (List.forall_mem_nil _)
  cases same

/-- A snapshot is mounted, its tree is copied, and it is unmounted. -/
theorem snapshotsFreed_of_served (destination : Destination) (snapshot : Snapshot)
    (point content target : Path) (copy release : Except Failure Unit) :
    SnapshotsFreed
      [.ofRepository (.mountSnapshot destination snapshot point) (.ok content),
        .ofVolume (.copyTree content target) copy,
        .ofRepository (.unmountSnapshot destination point) release] := by
  intro early _ _ _ _ late split
  obtain ⟨_, same, rfl⟩ := eq_of_split
    (fun exchange : Exchange backends => Call.IsSnapshotMount exchange.question)
    ((List.nil_append _).trans split) trivial (List.forall_mem_nil _)
    (List.forall_mem_cons.2 ⟨id, List.forall_mem_singleton.2 id⟩)
  cases same
  exact ⟨release, List.mem_cons_of_mem _ List.mem_cons_self⟩

end Records

/-! ### Mounting and unmounting -/

namespace Pool

variable {pool : ThinPool} {name : String} {target : Path} {before after : Roster}
  {exchanges : List (Exchange backends)} {outcome : Except Failure Volume}

/-- After a mount there is one listing more, and it came where all went well. -/
theorem Mounts.after_mount {early late : List (Exchange backends)} {device place : Path}
    (mounts : Mounts pool name target before exchanges outcome after)
    (split : exchanges = early ++ .ofVolume (.mount device place) (.ok ()) :: late) :
    ∃ answer, late = [.ofVolume (.list pool) answer] ∧
      (outcome.isOk = true → ∃ volumes, answer = .ok volumes) := by
  have mounting : (∀ exchange ∈ exchanges, ¬Call.IsMount exchange.question) → False := by
    intro none
    rw [split] at none
    exact none _ (List.mem_append_right _ List.mem_cons_self) trivial
  cases mounts with
  | missing required =>
    obtain ⟨answer, rfl⟩ := required.eq_singleton
    exact (mounting (List.forall_mem_singleton.2 id)).elim
  | unqueried _ required | already required _ | elsewhere required _ =>
    obtain ⟨answer, rfl⟩ := required.eq_singleton
    exact (mounting (List.forall_mem_cons.2 ⟨id, List.forall_mem_singleton.2 id⟩)).elim
  | @refused _ volume _ failure required =>
    obtain ⟨answer, rfl⟩ := required.eq_singleton
    have whole : [.ofVolume (.list pool) answer,
          .ofVolume (.queryMount volume.device) (.ok none)] ++
        .ofVolume (.mount volume.device target) (.error failure) :: [] =
      early ++ .ofVolume (.mount device place) (.ok ()) :: late := split
    obtain ⟨_, same, _⟩ := eq_of_split
      (fun exchange : Exchange backends => Call.IsMount exchange.question) whole trivial
      (List.forall_mem_cons.2 ⟨id, List.forall_mem_singleton.2 id⟩) (List.forall_mem_nil _)
    cases same
  | @mounted _ volume _ again _ _ required listed =>
    obtain ⟨answer, rfl⟩ := required.eq_singleton
    obtain ⟨last, rfl⟩ := listed.eq_singleton
    have whole : [.ofVolume (.list pool) answer,
          .ofVolume (.queryMount volume.device) (.ok none)] ++
        .ofVolume (.mount volume.device target) (.ok ()) :: [.ofVolume (.list pool) last] =
      early ++ .ofVolume (.mount device place) (.ok ()) :: late := split
    obtain ⟨_, _, rfl⟩ := eq_of_split
      (fun exchange : Exchange backends => Call.IsMount exchange.question) whole trivial
      (List.forall_mem_cons.2 ⟨id, List.forall_mem_singleton.2 id⟩)
      (List.forall_mem_singleton.2 id)
    refine ⟨last, rfl, fun well => ?_⟩
    cases outcome with
    | error failure => cases well
    | ok volume =>
      cases listed with
      | found volumes volume there => exact ⟨volumes, rfl⟩

/-- A device is unmounted where its volume is listed and it is found mounted. -/
theorem Unmounts.asksUnmount_iff {device : Path}
    (unmounts : Unmounts pool name before exchanges outcome after) :
    AsksUnmount device exchanges ↔ ∃ volumes place rest, looksOf exchanges =
      .ofVolume (.list pool) (.ok volumes) ::
        .ofVolume (.queryMount device) (.ok (some place)) :: rest := by
  have seen : ∀ {volumes place again} {answer : Except Failure Unit} {found : Path},
      (∀ exchange ∈ again, ¬Call.IsUnmount exchange.question) →
      exchanges = .ofVolume (.list pool) (.ok volumes) ::
        .ofVolume (.queryMount found) (.ok (some place)) ::
        .ofVolume (.unmount found) answer :: again →
      (AsksUnmount device exchanges ↔ ∃ volumes place rest, looksOf exchanges =
        .ofVolume (.list pool) (.ok volumes) ::
          .ofVolume (.queryMount device) (.ok (some place)) :: rest) := by
    rintro volumes place again answer found quiet rfl
    constructor
    · rintro ⟨_, member⟩
      rcases List.mem_cons.1 member with same | member
      · cases congrArg Exchange.question same
      rcases List.mem_cons.1 member with same | member
      · cases congrArg Exchange.question same
      rcases List.mem_cons.1 member with same | member
      · cases congrArg Exchange.question same
        exact ⟨volumes, place, looksOf again, rfl⟩
      · exact absurd trivial (quiet _ member)
    · rintro ⟨_, _, _, looks⟩
      cases looks
      exact ⟨answer, List.mem_cons_of_mem _ (List.mem_cons_of_mem _ List.mem_cons_self)⟩
  cases unmounts with
  | missing required =>
    obtain ⟨answer, rfl⟩ := required.eq_singleton
    refine iff_of_false (not_asksUnmount (List.forall_mem_singleton.2 id)) ?_
    rintro ⟨_, _, _, looks⟩
    cases looks
  | unqueried _ required | already required =>
    obtain ⟨answer, rfl⟩ := required.eq_singleton
    refine iff_of_false (not_asksUnmount (List.forall_mem_cons.2 ⟨id,
      List.forall_mem_singleton.2 id⟩)) ?_
    rintro ⟨_, _, _, looks⟩
    cases looks
  | refused place failure required =>
    cases required with
    | found volumes volume there => exact seen (List.forall_mem_nil _) rfl
  | unmounted place required listed =>
    obtain ⟨answer, rfl⟩ := listed.eq_singleton
    cases required with
    | found volumes volume there => exact seen (List.forall_mem_singleton.2 id) rfl

/-- What is looked at where all goes well: the listing and the mount of the device. -/
theorem Unmounts.looks_of_ok {volume : Volume}
    (unmounts : Unmounts pool name before exchanges (.ok volume) after) :
    ∃ first second rest, looksOf exchanges = first :: second :: rest := by
  cases unmounts with
  | already required =>
    cases required with
    | found volumes volume there => exact ⟨_, _, _, rfl⟩
  | unmounted place required listed =>
    cases required with
    | found volumes volume there => exact ⟨_, _, _, rfl⟩

theorem not_isMount_of_ensureUnmounted
    (conversation : Converses (ensureUnmounted pool name) before exchanges outcome after) :
    ∀ exchange ∈ exchanges, ¬Call.IsMount exchange.question :=
  have asksOnly : AsksOnly (¬Call.IsMount ·) (ensureUnmounted pool name) :=
    asksOnly_ensureUnmounted_of id (fun _ _ => id) fun _ _ => id
  asksOnly conversation

theorem not_isUnmount_of_ensureMounted
    (conversation : Converses (ensureMounted pool name target) before exchanges outcome after) :
    ∀ exchange ∈ exchanges, ¬Call.IsUnmount exchange.question :=
  have asksOnly : AsksOnly (¬Call.IsUnmount ·) (ensureMounted pool name target) :=
    asksOnly_ensureMounted_of id (fun _ _ => id) fun _ _ => id
  asksOnly conversation

/-- Where making sure of a mount fails after the mount, nothing unmounts it. -/
theorem Mounts.mountsFreed_of_error {failure : Failure}
    (mounts : Mounts pool name target before exchanges (.error failure) after) :
    MountsFreed exchanges := by
  intro early device place late split
  obtain ⟨answer, rfl, _⟩ := mounts.after_mount split
  refine iff_of_false (not_asksUnmount (List.forall_mem_singleton.2 id)) ?_
  rintro ⟨_, _, _, _, _, looks⟩
  cases looks

variable {other releasing trail : List (Exchange backends)} {placed : Volume}
  {between middle last : Roster} {released : Except Failure Volume}

/-- A volume is mounted, something else is done, and the volume is released. What follows where the
release went well may mount something but unmounts nothing. -/
theorem mountsFreed_of_released
    (staged : Converses (ensureMounted pool name target) before exchanges (.ok placed) between)
    (aside : ∀ exchange ∈ other, Call.IsAside exchange.question)
    (freeing : Converses (ensureUnmounted pool name) middle releasing released last)
    (ends : released.isOk = false → trail = [])
    (quiet : ∀ exchange ∈ trail, ¬Call.IsUnmount exchange.question) (freed : MountsFreed trail) :
    MountsFreed (exchanges ++ (other ++ (releasing ++ trail))) := by
  have unmounts := unmounts_of_converses freeing
  intro early device place late whole
  -- The mount is the one that is staged here, or it stands in the trail.
  rcases split_cases_of_append whole with ⟨rest, split, rfl⟩ | ⟨rest, _, split⟩
  · obtain ⟨answer, rfl, came⟩ := (mounts_of_converses staged).after_mount split
    obtain ⟨first, rfl⟩ := came rfl
    have asks : AsksUnmount device ([.ofVolume (.list pool) (.ok first)] ++
        (other ++ (releasing ++ trail))) ↔ AsksUnmount device releasing := by
      rw [asksUnmount_append, asksUnmount_append, asksUnmount_append,
        iff_false_intro (not_asksUnmount (List.forall_mem_singleton.2 id)),
        iff_false_intro (not_asksUnmount fun exchange member =>
          (aside exchange member).not_isUnmount),
        iff_false_intro (not_asksUnmount quiet), false_or, false_or, or_false]
    have looks : looksOf ([.ofVolume (.list pool) (.ok first)] ++
        (other ++ (releasing ++ trail))) =
        .ofVolume (.list pool) (.ok first) :: (looksOf releasing ++ looksOf trail) := by
      rw [looksOf_append, looksOf_append, looksOf_append, looksOf_eq_nil aside]
      rfl
    rw [asks, unmounts.asksUnmount_iff]
    unfold SeenMounted
    rw [looks]
    constructor
    · rintro ⟨volumes, place, rest, seen⟩
      rw [seen]
      exact ⟨pool, first, volumes, place, rest ++ looksOf trail, rfl⟩
    · rintro ⟨_, _, volumes, place, rest, seen⟩
      obtain ⟨same, seen⟩ := List.cons.inj seen
      cases congrArg Exchange.question same
      -- A release that went well has made both looks itself; after one that failed nothing comes.
      cases released with
      | ok volume =>
        obtain ⟨one, two, more, looked⟩ := unmounts.looks_of_ok
        rw [looked] at seen ⊢
        obtain ⟨rfl, following⟩ := List.cons.inj seen
        obtain ⟨rfl, _⟩ := List.cons.inj following
        exact ⟨volumes, place, more, rfl⟩
      | error failure =>
        rw [ends rfl] at seen
        exact ⟨volumes, place, rest, (List.append_nil _).symm.trans seen⟩
  · exact (MountsFreed.append (fun exchange member => (aside exchange member).not_isMount)
      (MountsFreed.append (not_isMount_of_ensureUnmounted freeing) freed)) split

end Pool

/-! ### Restoring -/

namespace Restore

variable {pool : ThinPool} {volume : String} {source : Source} {volumePoint snapshotPoint : Path}
  {before after : Roster} {exchanges trail : List (Exchange backends)}
  {outcome : Except Failure Unit}

/-- What a restore mounts it takes back, whatever follows where the restore went well. -/
theorem Restores.mountsFreed
    (restores : Restores pool volume source volumePoint snapshotPoint before exchanges outcome
      after)
    (ends : outcome.isOk = false → trail = [])
    (quiet : ∀ exchange ∈ trail, ¬Call.IsUnmount exchange.question) (freed : MountsFreed trail) :
    MountsFreed (exchanges ++ trail) := by
  cases restores with
  | unstaged refused =>
    rw [ends rfl, List.append_nil]
    exact (Pool.mounts_of_converses refused).mountsFreed_of_error
  | @unserved staging _ _ releasing _ _ failure staged released =>
    have freed : MountsFreed (staging ++ ([.ofRepository
        (.mountSnapshot source.destination source.snapshot snapshotPoint) (.error failure)] ++
          (releasing ++ trail))) :=
      Pool.mountsFreed_of_released staged (List.forall_mem_singleton.2 trivial) released
        (fun _ => ends rfl) quiet freed
    rw [List.append_assoc]
    exact freed
  | @copied staging _ _ releasing released _ content copy release staged freeing =>
    have ended : released.isOk = false → trail = [] := by
      intro failed
      refine ends ?_
      match copy, release, released with
      | .error _, _, _ | .ok (), .error _, _ | .ok (), .ok (), .error _ => rfl
    have freed : MountsFreed (staging ++ ([.ofRepository
        (.mountSnapshot source.destination source.snapshot snapshotPoint) (.ok content),
        .ofVolume (.copyTree content volumePoint) copy,
        .ofRepository (.unmountSnapshot source.destination snapshotPoint) release] ++
          (releasing ++ trail))) :=
      Pool.mountsFreed_of_released staged
        (List.forall_mem_cons.2 ⟨trivial, List.forall_mem_cons.2 ⟨trivial,
          List.forall_mem_singleton.2 trivial⟩⟩)
        freeing ended quiet freed
    rw [List.append_assoc]
    exact freed

theorem Restores.snapshotsFreed
    (restores : Restores pool volume source volumePoint snapshotPoint before exchanges outcome
      after) : SnapshotsFreed exchanges := by
  cases restores with
  | unstaged refused => exact .of_mounting (Pool.asksOnly_ensureMounted refused)
  | unserved failure staged released =>
    exact (SnapshotsFreed.of_mounting (Pool.asksOnly_ensureMounted staged)).append
      ((snapshotsFreed_of_refused ..).append
        (.of_mounting (Pool.asksOnly_ensureUnmounted released)))
  | copied content copy release staged released =>
    exact (SnapshotsFreed.of_mounting (Pool.asksOnly_ensureMounted staged)).append
      ((snapshotsFreed_of_served ..).append
        (.of_mounting (Pool.asksOnly_ensureUnmounted released)))

end Restore

/-! ### Publishing and releasing -/

namespace Agent

variable {settings : Settings} {now : Instant} {volume : String} {target : Path}
  {agent after : Agent} {exchanges trail : List (Exchange backends)}

theorem not_isMount_of_ensurePresent {pool : ThinPool} {least : Size} {before last : Roster}
    {outcome : Except Failure Pool.Presence}
    (present : Converses (Pool.ensurePresent pool volume least) before exchanges outcome last) :
    ∀ exchange ∈ exchanges, ¬Call.IsMount exchange.question :=
  have asksOnly : AsksOnly (¬Call.IsMount ·) (Pool.ensurePresent pool volume least) :=
    Pool.asksOnly_ensurePresent_of id id id id
  asksOnly present

theorem not_isMount_of_select {selected : Option Source}
    (held : Dialogue.Held (Selection.select volume settings.destinations now) exchanges selected) :
    ∀ exchange ∈ exchanges, ¬Call.IsMount exchange.question := by
  intro exchange member
  obtain ⟨destination, asked⟩ := Selection.mem_of_select held exchange member
  rw [asked]
  exact id

/-- What is mounted to fill a volume is taken back, whatever follows where filling went well. -/
theorem Fills.mountsFreed {due : Bool} {before last : Roster} {how : Filling}
    (fills : Fills settings now volume before due exchanges how last)
    (ends : how.outcome.isOk = false → trail = [])
    (quiet : ∀ exchange ∈ trail, ¬Call.IsUnmount exchange.question) (freed : MountsFreed trail) :
    MountsFreed (exchanges ++ trail) := by
  cases fills with
  | unfilled => exact freed
  | nothingFound selected => exact .append (not_isMount_of_select selected) freed
  | restored selected restoration =>
    rw [List.append_assoc]
    exact .append (not_isMount_of_select selected)
      ((Restore.restores_of_converses restoration).mountsFreed nofun quiet freed)
  | broken selected restoration =>
    rw [List.append_assoc]
    exact .append (not_isMount_of_select selected)
      ((Restore.restores_of_converses restoration).mountsFreed ends quiet freed)

theorem Fills.snapshotsFreed {due : Bool} {before last : Roster} {how : Filling}
    (fills : Fills settings now volume before due exchanges how last) :
    SnapshotsFreed exchanges := by
  have searched : ∀ {asking : List (Exchange backends)} {selected : Option Source},
      Dialogue.Held (Selection.select volume settings.destinations now) asking selected →
        SnapshotsFreed asking := by
    intro asking selected held
    refine .of_unmounting fun exchange member => ?_
    obtain ⟨destination, asked⟩ := Selection.mem_of_select held exchange member
    rw [asked]
    exact id
  cases fills with
  | unfilled => exact .of_unmounting (List.forall_mem_nil _)
  | nothingFound selected => exact searched selected
  | restored selected restoration | broken selected restoration =>
    exact (searched selected).append (Restore.restores_of_converses restoration).snapshotsFreed

theorem Publishes.mountsFreed {capacity : Option Int} {progress : Progress} {failure : Failure}
    (course : Publishes settings now volume target capacity agent exchanges progress
      (.error failure) after) : MountsFreed exchanges := by
  cases course with
  | refused => exact .of_unmounting (List.forall_mem_nil _)
  | absent valid lacking => exact .of_unmounting (not_isMount_of_ensurePresent lacking)
  | broken valid present notThere filled failed =>
    refine .append (not_isMount_of_ensurePresent present) ?_
    have freed := filled.mountsFreed (fun _ => rfl) (List.forall_mem_nil _)
      (.of_unmounting (List.forall_mem_nil _))
    rwa [List.append_nil] at freed
  | unmounted valid present notThere filled settled mounting =>
    rw [List.append_assoc]
    refine .append (not_isMount_of_ensurePresent present)
      (filled.mountsFreed ?_ (Pool.not_isUnmount_of_ensureMounted mounting)
        (Pool.mounts_of_converses mounting).mountsFreed_of_error)
    rw [settled]
    exact nofun

theorem Publishes.snapshotsFreed {capacity : Option Int} {progress : Progress}
    {outcome : Except Failure Published}
    (course : Publishes settings now volume target capacity agent exchanges progress outcome
      after) : SnapshotsFreed exchanges := by
  have presenting : ∀ {asking : List (Exchange backends)} {least before outcome last},
      Converses (Pool.ensurePresent settings.pool volume least) before asking outcome last →
        SnapshotsFreed asking := fun present =>
    .of_unmounting fun exchange member =>
      (Pool.asksOnly_ensurePresent present exchange member).not_isSnapshotMount
  cases course with
  | refused => exact .of_unmounting (List.forall_mem_nil _)
  | absent valid present | alreadyMounted valid present there => exact presenting present
  | broken valid present notThere filled failed =>
    exact (presenting present).append filled.snapshotsFreed
  | unmounted valid present notThere filled settled mounting
  | mounted valid present notThere filled settled mounting =>
    exact ((presenting present).append filled.snapshotsFreed).append
      (.of_mounting (Pool.asksOnly_ensureMounted mounting))

theorem Departs.mountsFreed {before last : Roster} {reason : Option String} {failure : Failure}
    (departs : Departs settings now volume before reason exchanges (.error failure) last) :
    MountsFreed exchanges := by
  generalize ended : (Except.error failure : Except Failure Released) = outcome at departs
  cases departs with
  | stuck left => exact .of_unmounting (Pool.not_isMount_of_ensureUnmounted left)
  | skipped => cases ended
  | unstaged left staged =>
    exact .append (Pool.not_isMount_of_ensureUnmounted left)
      (Pool.mounts_of_converses staged).mountsFreed_of_error
  | @backedUp _ _ _ staging _ _ backing _ ending _ _ left staged backed freed =>
    refine .append (Pool.not_isMount_of_ensureUnmounted left) ?_
    have aside : ∀ exchange ∈ backing, Call.IsAside exchange.question := by
      intro exchange member
      obtain ⟨destination, asked⟩ := Backup.mem_of_backupAll backed exchange member
      rw [asked]
      trivial
    have saved : MountsFreed (staging ++ (backing ++ (ending ++ []))) :=
      Pool.mountsFreed_of_released staged aside freed (fun _ => rfl) (List.forall_mem_nil _)
        (.of_unmounting (List.forall_mem_nil _))
    rwa [List.append_nil] at saved

theorem not_isMount_of_find {before last : Roster} {outcome : Except Failure (Option Volume)}
    (looked : Converses (Pool.find settings.pool volume) before exchanges outcome last) :
    ∀ exchange ∈ exchanges, ¬Call.IsMount exchange.question :=
  have asksOnly : AsksOnly (¬Call.IsMount ·) (Pool.find settings.pool volume) :=
    Pool.asksOnly_find id
  asksOnly looked

theorem Releases.mountsFreed {failure : Failure}
    (course : Releases settings now volume target agent exchanges (.error failure) after) :
    MountsFreed exchanges := by
  generalize ended : (Except.error failure : Except Failure Released) = outcome at course
  cases course with
  | refused => exact .of_unmounting (List.forall_mem_nil _)
  | unlisted valid looked | missing valid looked =>
    exact .of_unmounting (not_isMount_of_find looked)
  | departed valid looked departs =>
    subst ended
    exact .append (not_isMount_of_find looked) departs.mountsFreed

theorem Releases.snapshotsFreed {outcome : Except Failure Released}
    (course : Releases settings now volume target agent exchanges outcome after) :
    SnapshotsFreed exchanges := by
  refine .of_unmounting fun exchange member => ?_
  rcases course.mem_cases exchange member with mounting | ⟨destination, source, time, asked⟩
  · exact mounting.isUpkeep.not_isSnapshotMount
  · rw [asked]
    exact id

end Agent

/-- What a call that failed asked and was answered: a restore, a publish or a release. -/
inductive EndsInFailure : List (Exchange backends) → Prop where
  | restore {pool volume source volumePoint snapshotPoint before exchanges after}
      {failure : Failure}
      (conversation : Converses (Restore.restore pool volume source volumePoint snapshotPoint)
        before exchanges (.error failure) after) : EndsInFailure exchanges
  | publish {settings now volume target capacity before exchanges after} {failure : Failure}
      (conversation : Converses (Agent.publish settings now volume target capacity) before
        exchanges (.error failure) after) : EndsInFailure exchanges
  | unpublish {settings now volume target before exchanges after} {failure : Failure}
      (conversation : Converses (Agent.unpublish settings now volume target) before exchanges
        (.error failure) after) : EndsInFailure exchanges

/-- What a failed call leaves mounted. A snapshot that it mounted it unmounts again whichever step
failed. A volume that it mounted it unmounts exactly where it sees the volume mounted afterwards:
where the listing after the mount comes, the next listing comes, and then the look at the device
finds it mounted. So where one of these looks fails, the staging mount is left behind. -/
theorem unmounted_iff_seen {exchanges : List (Exchange backends)}
    (fails : EndsInFailure exchanges) :
    (∀ {early destination snapshot point content late},
      exchanges = early ++
        .ofRepository (.mountSnapshot destination snapshot point) (.ok content) :: late →
      ∃ answer, Exchange.ofRepository (.unmountSnapshot destination point) answer ∈ late) ∧
    ∀ {early device place late},
      exchanges = early ++ .ofVolume (.mount device place) (.ok ()) :: late →
      (AsksUnmount device late ↔ SeenMounted device late) := by
  have freed : SnapshotsFreed exchanges ∧ MountsFreed exchanges := by
    cases fails with
    | restore conversation =>
      have restores := Restore.restores_of_converses conversation
      have freed := restores.mountsFreed (fun _ => rfl) (List.forall_mem_nil _)
        (.of_unmounting (List.forall_mem_nil _))
      rw [List.append_nil] at freed
      exact ⟨restores.snapshotsFreed, freed⟩
    | publish conversation =>
      obtain ⟨progress, course⟩ := Agent.publishes_of_converses conversation
      exact ⟨course.snapshotsFreed, course.mountsFreed⟩
    | unpublish conversation =>
      have course := Agent.releases_of_converses conversation
      exact ⟨course.snapshotsFreed, course.mountsFreed⟩
  exact ⟨fun split => freed.1 split, fun split => freed.2 split⟩

/-! ### Two failed publishes -/

namespace Staging

/-- Where the volume of the small setting is filled. -/
def smallStaging : Path := (Memory.smallSettings .onCreate).volumePoint "pg"

/-- Where the snapshot of the small setting is mounted. -/
def smallSnapshotPoint : Path := (Memory.smallSettings .onCreate).snapshotPoint "pg"

/-- The snapshot of the small setting. -/
def smallSnapshot : Snapshot :=
  ⟨"repo-a", "aaaaaaaa01", "aaaaaaaa", ⟨1709294000000000000⟩, []⟩

/-- The exchanges of a publish that creates its volume and is about to mount it for a restore. -/
def unstaged : List (Exchange backends) :=
  [.ofVolume (.list ⟨"vg0", "thinpool"⟩) (.ok []),
    .ofVolume (.create ⟨"vg0", "thinpool"⟩ "pg" ⟨1073741824⟩) (.ok ()),
    .ofVolume (.list ⟨"vg0", "thinpool"⟩) (.ok [listedAt none]),
    .ofRepository (.findNearest ⟨"repo-a", .empty⟩ "pg" Memory.smallNow)
      (.ok (some smallSnapshot)),
    .ofVolume (.list ⟨"vg0", "thinpool"⟩) (.ok [listedAt none]),
    .ofVolume (.queryMount ⟨"/dev/vg0/pg"⟩) (.ok none)]

/-- The mount of the volume for the restore. -/
def staged : Exchange backends := .ofVolume (.mount ⟨"/dev/vg0/pg"⟩ smallStaging) (.ok ())

/-- What follows where the tree cannot be copied. -/
def uncopied : List (Exchange backends) :=
  [.ofVolume (.list ⟨"vg0", "thinpool"⟩) (.ok [listedAt (some smallStaging)]),
    .ofRepository (.mountSnapshot ⟨"repo-a", .empty⟩ smallSnapshot smallSnapshotPoint)
      (.ok ⟨"/content"⟩),
    .ofVolume (.copyTree ⟨"/content"⟩ smallStaging) (.error (.backend "cp" (some 1) "busy")),
    .ofRepository (.unmountSnapshot ⟨"repo-a", .empty⟩ smallSnapshotPoint) (.ok ()),
    .ofVolume (.list ⟨"vg0", "thinpool"⟩) (.ok [listedAt (some smallStaging)]),
    .ofVolume (.queryMount ⟨"/dev/vg0/pg"⟩) (.ok (some smallStaging)),
    .ofVolume (.unmount ⟨"/dev/vg0/pg"⟩) (.ok ()),
    .ofVolume (.list ⟨"vg0", "thinpool"⟩) (.ok [listedAt none])]

/-- What follows where the listing after the mount fails. -/
def unlisted : List (Exchange backends) :=
  [.ofVolume (.list ⟨"vg0", "thinpool"⟩) (.error (.backend "lvs" (some 5) "busy"))]

theorem exists_failure_of_follow {exchanges : List (Exchange backends)}
    (followed : (((Memory.smallPublish .onCreate).run (.fresh .empty)).follow exchanges).map
      (fun ended => ended.1.isOk) = some false) :
    ∃ failure after, Converses (Memory.smallPublish .onCreate) (.fresh .empty) exchanges
      (.error failure) after := by
  obtain ⟨⟨outcome, after⟩, held, ended⟩ := Option.map_eq_some_iff.1 followed
  cases outcome with
  | ok published => cases ended
  | error failure => exact ⟨failure, after, Dialogue.follow_eq_some_iff.1 held⟩

/-- A restore that cannot copy takes back what it mounted. -/
theorem unmounted_when_uncopied :
    EndsInFailure (unstaged ++ staged :: uncopied) ∧
      (∃ answer, Exchange.ofRepository (.unmountSnapshot ⟨"repo-a", .empty⟩ smallSnapshotPoint)
        answer ∈ uncopied.drop 2) ∧
      AsksUnmount ⟨"/dev/vg0/pg"⟩ uncopied := by
  have failed : ∃ failure after, Converses (Memory.smallPublish .onCreate) (.fresh .empty)
      (unstaged ++ staged :: uncopied) (.error failure) after :=
    exists_failure_of_follow (by decide +kernel)
  obtain ⟨failure, after, conversation⟩ := failed
  have fails : EndsInFailure (unstaged ++ staged :: uncopied) := .publish conversation
  obtain ⟨snapshots, volumes⟩ := unmounted_iff_seen fails
  have served : unstaged ++ staged :: uncopied =
      (unstaged ++ staged :: uncopied.take 1) ++
        .ofRepository (.mountSnapshot ⟨"repo-a", .empty⟩ smallSnapshot smallSnapshotPoint)
          (.ok ⟨"/content"⟩) :: uncopied.drop 2 := rfl
  exact ⟨fails, snapshots served, (volumes rfl).2 ⟨_, _, _, _, _, rfl⟩⟩

/-- Where the listing after the mount fails, the publish fails and leaves the volume mounted at the
staging path. -/
theorem left_mounted_when_unlisted :
    (∃ failure after, Converses (Memory.smallPublish .onCreate) (.fresh .empty)
      (unstaged ++ .ofVolume (.mount ⟨"/dev/vg0/pg"⟩ smallStaging) (.ok ()) :: unlisted)
      (.error failure) after) ∧
      ¬AsksUnmount ⟨"/dev/vg0/pg"⟩ unlisted :=
  ⟨exists_failure_of_follow (by decide +kernel),
    not_asksUnmount (List.forall_mem_singleton.2 id)⟩

end Staging

end NodeAgent
