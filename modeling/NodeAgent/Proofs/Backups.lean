/-
This file asks whether a volume that was published is backed up before it is released. A release
decides by what it finds when it begins: a volume that is not mounted is not backed up, also where
an earlier release of it failed after it had unmounted the volume. In front of the backends in
memory a release that fails has asked for no backup, so the one that comes out well decides alone.
-/

import NodeAgent.Proofs.Store

namespace NodeAgent

open Operation

/-- A backup of the volume to the destination was asked for. -/
def AsksBackup (destination : Destination) (volume : String)
    (exchanges : List (Exchange backends)) : Prop :=
  ∃ source time, RepositoryCall.backup destination volume source time ∈ backupsOf exchanges

/-- The call released the volume and came out well. -/
def Completed.Releases (volume : String) : Completed → Prop
  | .publish _ _ _ _ _ _ _ => False
  | .unpublish _ name _ _ outcome => name = volume ∧ outcome.isOk = true

theorem asksBackup_append {destination : Destination} {volume : String}
    {first second : List (Exchange backends)} :
    AsksBackup destination volume (first ++ second) ↔
      AsksBackup destination volume first ∨ AsksBackup destination volume second := by
  unfold AsksBackup
  simp only [backupsOf_append, List.mem_append, exists_or]

theorem not_asksBackup_of_eq_nil {destination : Destination} {volume : String}
    {exchanges : List (Exchange backends)} (none : backupsOf exchanges = []) :
    ¬AsksBackup destination volume exchanges := by
  rintro ⟨source, time, member⟩
  rw [none] at member
  cases member

namespace Agent

variable {settings : Settings} {now : Instant} {volume other : String} {target : Path}
  {agent after : Agent} {exchanges : List (Exchange backends)}

/-- No publish asks for a backup. -/
theorem Publishes.backupsOf_eq_nil {capacity : Option Int} {progress : Progress}
    {outcome : Except Failure Published}
    (course : Publishes settings now volume target capacity agent exchanges progress outcome
      after) :
    backupsOf exchanges = [] := by
  refine NodeAgent.backupsOf_eq_nil fun exchange member => ?_
  rcases course.mem_cases exchange member with ⟨destination, asked⟩ | restoring | upkeep
  · rw [asked]
    rfl
  · exact restoring.backup?_eq_none
  · exact upkeep.backup?_eq_none

/-- A release asks for no backup of another volume. -/
theorem Releases.not_asksBackup_other {outcome : Except Failure Released}
    (course : Releases settings now volume target agent exchanges outcome after)
    (different : volume ≠ other) (destination : Destination) :
    ¬AsksBackup destination other exchanges := by
  rintro ⟨source, time, member⟩
  obtain ⟨question, asked, backup⟩ := List.mem_filterMap.1 member
  obtain ⟨exchange, member, rfl⟩ := List.mem_map.1 asked
  rcases course.mem_cases exchange member with mounting | ⟨_, _, _, asked⟩
  · rw [mounting.isUpkeep.backup?_eq_none] at backup
    cases backup
  · rw [asked] at backup
    cases backup
    exact different rfl

theorem skipReason?_eq_none_iff {current : Volume} :
    agent.skipReason? current volume = none ↔
      agent.pending.contains volume = false ∧ current.target.isSome = true := by
  unfold skipReason?
  cases agent.pending.contains volume with
  | true => exact iff_of_false nofun fun both => nomatch both.1
  | false =>
    cases current.target with
    | none => exact iff_of_false nofun fun both => nomatch both.2
    | some place => exact iff_of_true rfl ⟨rfl, rfl⟩

end Agent

namespace Memory

variable {settings : Settings} {start world last : Backends} {history : List Completed}
  {agent after : Agent} {now : Instant} {volume : String} {target : Path}
  {exchanges : List (Exchange backends)}

/-! ### Failed releases -/

/-- Where a mounted volume could be unmounted and mounted again, it can be unmounted once more. -/
theorem unmounts_again (valid : checkVolumeId volume = .ok ()) {first second third : Backends}
    {leaving staging backing ending : List (Exchange backends)} {left placed : Volume}
    {ended : Except Failure Volume} {staged : Path}
    {rosterA rosterB rosterC rosterD : Roster}
    (unmounts : Pool.Unmounts settings.pool volume rosterA leaving (.ok left) rosterB)
    (leavingAnswered : Answered world leaving first)
    (mounts : Pool.Mounts settings.pool volume staged rosterB staging (.ok placed) rosterC)
    (stagingAnswered : Answered first staging second)
    (backingAnswered : Answered second backing third)
    (spared : third.stored volume = second.stored volume)
    (again : Pool.Unmounts settings.pool volume rosterC ending ended rosterD)
    (endingAnswered : Answered third ending last)
    {size : Size} {place : Path} (mounted : world.stored volume = some ⟨size, some place⟩) :
    ended.isOk = true := by
  cases ended with
  | ok freed => rfl
  | error failure =>
    obtain ⟨lists, queries, unmounting⟩ :=
      works_of_unmounts_ok valid unmounts leavingAnswered mounted
    obtain ⟨_, _, there, _⟩ := mounts_ok valid mounts stagingAnswered
    have same : ∀ op, third.Fails op ↔ world.Fails op := fun op => by
      rw [backingAnswered.fails_iff, stagingAnswered.fails_iff, leavingAnswered.fails_iff]
    rcases unmounts_error valid again endingAnswered with gone | fails | fails | fails
    · rw [spared, there] at gone
      cases gone
    · exact absurd ((same _).1 fails) lists
    · exact absurd ((same _).1 fails) queries
    · exact absurd ((same _).1 fails) unmounting

/-- Backups leave every volume as it is. -/
theorem stored_of_backupAll {destinations : List Destination} {source : Path} {time : Timestamp}
    {report : BackupReport}
    (backed : Dialogue.Held (Backup.backupAll volume source destinations time) exchanges report)
    (answered : Answered world exchanges last) (name : String) :
    last.stored name = world.stored name := by
  refine answered.stored_eq fun exchange member => ?_
  obtain ⟨destination, asked⟩ := Backup.mem_of_backupAll backed exchange member
  rw [asked]
  exact id

/-- A release that fails has asked for no backup. -/
theorem backupsOf_of_failed_release {failure : Failure}
    (course : Agent.Releases settings now volume target agent exchanges (.error failure) after)
    (answered : Answered world exchanges last) : backupsOf exchanges = [] := by
  cases course with
  | refused => rfl
  | unlisted valid looked | missing valid looked => exact Pool.backupsOf_of_find looked
  | @departed _ current roster departing _ final valid looked departs =>
    have valid := Agent.checkVolumeId_of_checkUnpublish valid
    obtain ⟨seen, looking, departing⟩ := Answered.append_iff.1 answered
    rw [backupsOf_append, Pool.backupsOf_of_find looked, List.nil_append]
    generalize skips : agent.skipReason? current volume = reason at departs
    generalize failed : (Except.error failure : Except Failure Released) = outcome at departs
    cases departs with
    | stuck left => exact Pool.backupsOf_of_ensureUnmounted left
    | skipped left => cases failed
    | unstaged left staged =>
      rw [backupsOf_append, Pool.backupsOf_of_ensureUnmounted left,
        Pool.backupsOf_of_ensureMounted staged]
      rfl
    | @backedUp _ _ _ _ _ _ _ _ _ ended _ left staged backed freed =>
      obtain ⟨first, leaving, departing⟩ := Answered.append_iff.1 departing
      obtain ⟨second, staging, departing⟩ := Answered.append_iff.1 departing
      obtain ⟨third, backing, ending⟩ := Answered.append_iff.1 departing
      obtain ⟨_, found, kept⟩ := finds_ok (Pool.finds_of_converses looked) looking
      obtain ⟨⟨size, target⟩, there, rfl⟩ := Option.map_eq_some_iff.1 found.symm
      obtain ⟨place, rfl⟩ := Option.isSome_iff_exists.1 (Agent.skipReason?_eq_none_iff.1 skips).2
      have well := unmounts_again valid (Pool.unmounts_of_converses left) leaving
        (Pool.mounts_of_converses staged) staging backing
        (stored_of_backupAll backed backing volume)
        (Pool.unmounts_of_converses freed) ending ((kept volume).trans there)
      cases ended with
      | ok freed => cases failed
      | error failure => cases well

/-! ### Releases that come out well -/

/-- A release that comes out well has asked every destination for a backup of the volume where no
filling of it was pending and it was mounted when the release began, and for none otherwise. -/
theorem backupsOf_of_release {released : Released}
    (course : Agent.Releases settings now volume target agent exchanges (.ok released) after)
    (answered : Answered world exchanges last) :
    backupsOf exchanges =
      if agent.pending.contains volume = false ∧ (world.volumes.targetOf volume).isSome = true then
        settings.destinations.map
          (.backup · volume (settings.volumePoint volume) (.ofInstant now))
      else [] := by
  cases course with
  | @departed _ current roster departing _ final valid looked departs =>
    obtain ⟨seen, looking, departing⟩ := Answered.append_iff.1 answered
    obtain ⟨_, found, kept⟩ := finds_ok (Pool.finds_of_converses looked) looking
    obtain ⟨stored, there, rfl⟩ := Option.map_eq_some_iff.1 found.symm
    have counts : agent.skipReason? (world.volumes.listed volume stored) volume = none ↔
        agent.pending.contains volume = false ∧ stored.target.isSome = true :=
      Agent.skipReason?_eq_none_iff
    rw [backupsOf_append, Pool.backupsOf_of_find looked, List.nil_append,
      Backends.targetOf_of_stored there]
    generalize agent.skipReason? (world.volumes.listed volume stored) volume = reason
      at departs counts
    generalize well : (Except.ok released : Except Failure Released) = outcome at departs
    cases departs with
    | stuck | unstaged => cases well
    | skipped left =>
      rw [if_neg fun mounted => nomatch counts.2 mounted]
      exact Pool.backupsOf_of_ensureUnmounted left
    | backedUp left staged backed freed =>
      rw [if_pos (counts.1 rfl), backupsOf_append, backupsOf_append, backupsOf_append,
        Pool.backupsOf_of_ensureUnmounted left, Pool.backupsOf_of_ensureMounted staged,
        Pool.backupsOf_of_ensureUnmounted freed, Backup.backupsOf_of_backupAll backed,
        List.append_nil]
      rfl

/-! ### Sessions -/

/-- Only a release of a volume that comes out well has asked for a backup of it. -/
theorem not_asksBackup_of_step {call : Completed} (step : Step settings agent call after)
    (answered : Answered world call.exchanges last) (unreleased : ¬call.Releases volume)
    (destination : Destination) : ¬AsksBackup destination volume call.exchanges := by
  cases step with
  | publish course => exact not_asksBackup_of_eq_nil course.backupsOf_eq_nil
  | @unpublish now name target exchanges outcome _ course =>
    by_cases same : name = volume
    · cases outcome with
      | ok released => exact absurd ⟨same, rfl⟩ unreleased
      | error failure =>
        exact not_asksBackup_of_eq_nil (backupsOf_of_failed_release course answered)
    · exact course.not_asksBackup_other same destination

theorem not_asksBackup_exchangesOf {between : List Completed}
    (session : Session settings start history agent world)
    (part : ∀ call ∈ between, call ∈ history)
    (unreleased : ∀ call ∈ between, ¬call.Releases volume) (destination : Destination) :
    ¬AsksBackup destination volume (exchangesOf between) := by
  rintro ⟨source, time, member⟩
  obtain ⟨question, asked, backup⟩ := List.mem_filterMap.1 member
  obtain ⟨exchange, member, rfl⟩ := List.mem_map.1 asked
  obtain ⟨call, inside, member⟩ := List.mem_flatMap.1 member
  obtain ⟨_, _, _, _, step, answered⟩ := session.step_of_mem (part call inside)
  refine not_asksBackup_of_step step answered (unreleased call inside) destination
    ⟨source, time, List.mem_filterMap.2 ⟨_, List.mem_map.2 ⟨exchange, member, rfl⟩, backup⟩⟩

/-- Where the repositories have recorded no backup, none was asked for. -/
theorem not_asksBackup_of_backups_eq_nil (session : Session settings start history agent world)
    (none : RepositoryStore.backups world.repositories.calls = []) (destination : Destination)
    (volume : String) : ¬AsksBackup destination volume (exchangesOf history) := by
  rintro ⟨source, time, member⟩
  have recorded : RepositoryCall.backup destination volume source time ∈
      world.repositories.calls := by
    rw [session.repositoryCalls_eq]
    exact List.mem_append_right _ (mem_repositoryCallsOf_of_backup member)
  have kept : (destination.repository, time) ∈
      RepositoryStore.backups world.repositories.calls :=
    List.mem_filterMap.2 ⟨_, recorded, rfl⟩
  rw [none] at kept
  cases kept

/-- After any call, a publish that came out well among them, and until the next release of a volume
that comes out well, every destination is asked for a backup of the volume exactly when two things
hold at the time that release begins: no failed restore of the volume is outstanding, and the volume
is mounted. -/
theorem backed_up_iff {before between : List Completed} {released : Released}
    (session : Session settings start (before ++ between) agent world)
    (unreleased : ∀ call ∈ between, ¬call.Releases volume)
    (conversation : Converses (Agent.unpublish settings now volume target) agent exchanges
      (.ok released) after)
    (answered : Answered world exchanges last) (some : settings.destinations ≠ []) :
    (∀ destination ∈ settings.destinations,
      AsksBackup destination volume (exchangesOf between ++ exchanges)) ↔
    ¬Outstanding volume (before ++ between) ∧ (world.volumes.targetOf volume).isSome = true := by
  have earlier := not_asksBackup_exchangesOf session
    (fun call member => List.mem_append_right before member) unreleased
  have asked := backupsOf_of_release (Agent.releases_of_converses conversation) answered
  rw [← session.run.pending_iff_outstanding, Bool.not_eq_true]
  constructor
  · intro all
    obtain ⟨destination, member⟩ := List.exists_mem_of_ne_nil _ some
    rcases asksBackup_append.1 (all destination member) with early | ⟨source, time, late⟩
    · exact absurd early (earlier destination)
    · by_cases both : agent.pending.contains volume = false ∧
          (world.volumes.targetOf volume).isSome = true
      · exact both
      · rw [asked, if_neg both] at late
        cases late
  · intro both destination member
    refine asksBackup_append.2 (Or.inr ⟨settings.volumePoint volume, .ofInstant now, ?_⟩)
    rw [asked, if_pos both]
    exact List.mem_map.2 ⟨destination, member, rfl⟩

/-- A volume that was published is released with a backup to the one destination. -/
theorem backed_up_when_mounted :
    ∃ history agent world exchanges released after last,
      Session (smallSettings .onCreate) smallStart history agent world ∧
      history.map accountOf = [(.publish smallNow "pg" ⟨"/mnt/a"⟩ none, true)] ∧
      Converses (Agent.unpublish (smallSettings .onCreate) smallNow "pg" ⟨"/mnt/a"⟩) agent exchanges
        (.ok released) after ∧
      Answered world exchanges last ∧
      ∀ destination ∈ (smallSettings .onCreate).destinations,
        AsksBackup destination "pg" exchanges := by
  obtain ⟨history, account, session⟩ := exists_session_smallPublished .onCreate
  have well : ((smallPublished .onCreate).2.2.hold (smallPublished .onCreate).2.1
      (Agent.unpublish (smallSettings .onCreate) smallNow "pg" ⟨"/mnt/a"⟩)).1.1.isOk = true := by
    decide +kernel
  obtain ⟨exchanges, released, after, last, conversation, answered⟩ :=
    Backends.exists_conversation_of_isOk well
  refine ⟨history, _, _, exchanges, released, after, last, session,
    account.trans (by decide +kernel), conversation, answered, ?_⟩
  rw [← List.append_nil history] at session
  have quiet : ¬Outstanding "pg" (history ++ []) := by
    rw [← session.run.pending_iff_outstanding]
    decide +kernel
  have mounted : ((smallPublished .onCreate).2.2.volumes.targetOf "pg").isSome = true := by
    decide +kernel
  exact (backed_up_iff session (fun call member => absurd member List.not_mem_nil) conversation
    answered (List.cons_ne_nil _ _)).2 ⟨quiet, mounted⟩

/-- A volume that was filled and published is released without a backup: a publish at another target
is refused because the volume is mounted, and still marks it as never filled. -/
theorem released_without_backup :
    ∃ history agent world, Session (smallSettings .always) smallStart history agent world ∧
      history.map accountOf =
        [(.publish smallNow "pg" ⟨"/mnt/a"⟩ none, true),
          (.publish smallNow "pg" ⟨"/mnt/b"⟩ none, false),
          (.unpublish smallNow "pg" ⟨"/mnt/a"⟩, true)] ∧
      ∀ destination ∈ (smallSettings .always).destinations,
        ¬AsksBackup destination "pg" (exchangesOf history) := by
  obtain ⟨history, account, session⟩ := exists_session (smallSettings .always) smallStart .empty
    [.publish smallNow "pg" ⟨"/mnt/a"⟩ none, .publish smallNow "pg" ⟨"/mnt/b"⟩ none,
      .unpublish smallNow "pg" ⟨"/mnt/a"⟩]
  refine ⟨history, _, _, session, account.trans (by decide +kernel), fun destination _ => ?_⟩
  exact not_asksBackup_of_backups_eq_nil session (by decide +kernel) destination "pg"

end Memory

end NodeAgent
