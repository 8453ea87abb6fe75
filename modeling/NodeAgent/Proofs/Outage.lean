/-
This file releases volumes while repositories are out of order. As long as the volume tools work, a
release comes out well whatever the repositories do: a backup that fails is told in the report, at
the place of its own destination, and nothing else depends on it.
-/

import Mathlib.Data.List.Basic
import NodeAgent.Proofs.Backups
import NodeAgent.Proofs.Resting

namespace NodeAgent

open Operation

/-! ### Requests -/

theorem checkTargetPath_of_isAbsolute {path : Path} (absolute : path.isAbsolute = true) :
    checkTargetPath path = .ok () := by
  have given : path.text ≠ "" := by
    intro empty
    unfold Path.isAbsolute at absolute
    rw [empty] at absolute
    cases absolute
  unfold checkTargetPath
  rw [if_neg given, absolute]
  rfl

theorem Call.IsMounting.repository?_eq_none {call : Call} {name : String}
    (mounting : call.IsMounting name) : call.repository? = none := by
  match call, mounting with
  | .volume (.list _), _ | .volume (.queryMount _), _ | .volume (.mount _ _), _
  | .volume (.unmount _), _ => rfl

namespace Agent

variable {settings : Settings} {now : Instant} {volume : String} {target : Path}
  {agent after : Agent} {exchanges : List (Exchange backends)} {outcome : Except Failure Released}

theorem checkUnpublish_of_valid (valid : checkVolumeId volume = .ok ())
    (absolute : target.isAbsolute = true) : checkUnpublish volume target = .ok () := by
  unfold checkUnpublish
  rw [valid]
  exact checkTargetPath_of_isAbsolute absolute

/-- A release asks the repositories for nothing but backups. -/
theorem Releases.repositoryCallsOf_eq
    (course : Releases settings now volume target agent exchanges outcome after) :
    repositoryCallsOf exchanges = backupsOf exchanges := by
  refine List.filterMap_congr fun question member => ?_
  obtain ⟨exchange, asked, rfl⟩ := List.mem_map.1 member
  rcases course.mem_cases exchange asked with mounting | ⟨_, _, _, backup⟩
  · rw [mounting.repository?_eq_none, mounting.isUpkeep.backup?_eq_none]
  · rw [backup]
    rfl

end Agent

namespace Memory

variable {settings : Settings} {world last : Backends} {agent after : Agent} {now : Instant}
  {volume : String} {target : Path} {exchanges : List (Exchange backends)}

/-! ### Backups that fail -/

/-- How a backup that fails is told. -/
def refusalOf (destination : Destination) : String :=
  (RepositoryStore.told destination.repository .backup).message

/-- What is reported of the backup to a destination. -/
def Backends.resultAt (world : Backends) (destination : Destination) : BackupResult :=
  Backup.resultOf destination (.finished
    (world.repositories.unlessTold destination.repository .backup (.ok (), world.repositories)).1)

theorem Backends.resultAt_eq (world : Backends) (destination : Destination) :
    world.resultAt destination =
      ⟨destination.repository,
        if (destination.repository, .backup) ∈ world.repositories.failing then
          some (refusalOf destination)
        else none⟩ := by
  unfold resultAt
  rw [RepositoryStore.fst_unlessTold]
  split <;> rfl

theorem Backends.resultOf_answer (world : Backends) (destination : Destination) (volume : String)
    (source : Path) (time : Timestamp) :
    Backup.resultOf destination
        (world.repositories.answer (.backup destination volume source time)).1 =
      world.resultAt destination := by
  unfold resultAt RepositoryStore.answer
  dsimp only
  rw [RepositoryStore.fst_unlessTold, RepositoryStore.fst_unlessTold]

theorem Answered.resultAt_eq (answered : Answered world exchanges last) :
    last.resultAt = world.resultAt := by
  funext destination
  rw [last.resultAt_eq, world.resultAt_eq, answered.sameSetup.repositoryFailures]

/-- Each destination gets its own result, whatever came of the backups before it. -/
theorem results_of_backupEach {destinations : List Destination} {source : Path}
    {time : Timestamp} {results : List BackupResult}
    (held : Dialogue.Held (Backup.backupEach volume source time destinations) exchanges results)
    (answered : Answered world exchanges last) : results = destinations.map world.resultAt := by
  induction destinations generalizing world exchanges results with
  | nil => exact (held_done_iff.1 held).2
  | cons destination rest inductionHypothesis =>
    cases held with
    | ask ended others =>
      obtain ⟨asking, ending, further, rfl, askedNext, finished⟩ :=
        Dialogue.held_bind_iff.1 others
      obtain ⟨rfl, rfl⟩ := held_done_iff.1 finished
      obtain ⟨middle, asked, following⟩ := Answered.cons_iff.1 answered
      rw [List.append_nil] at following
      -- The backup leaves the failing operations as they are, so the rest fail as from the start.
      obtain ⟨rfl, _⟩ := Answered.eq_repositoryAnswer asked
      rw [inductionHypothesis askedNext following, asked.resultAt_eq, world.resultOf_answer]
      rfl

theorem report_of_backupAll {destinations : List Destination} {source : Path} {time : Timestamp}
    {report : BackupReport}
    (held : Dialogue.Held (Backup.backupAll volume source destinations time) exchanges report)
    (answered : Answered world exchanges last) :
    report = ⟨time, destinations.map world.resultAt⟩ := by
  obtain ⟨asking, ending, results, rfl, asked, ended⟩ := Dialogue.held_bind_iff.1 held
  obtain ⟨rfl, rfl⟩ := held_done_iff.1 ended
  rw [List.append_nil] at answered
  rw [results_of_backupEach asked answered]

theorem Backends.succeeded_resultAt (world : Backends) (destination : Destination) :
    (world.resultAt destination).succeeded =
      !decide ((destination.repository, RepositoryOp.backup) ∈ world.repositories.failing) := by
  rw [world.resultAt_eq]
  unfold BackupResult.succeeded
  by_cases refuses : (destination.repository, RepositoryOp.backup) ∈ world.repositories.failing
  · rw [if_pos refuses, decide_eq_true refuses]
    rfl
  · rw [if_neg refuses, decide_eq_false refuses]
    rfl

/-- The warnings tell of the backups that failed and of no others. -/
theorem warnings_of_results (world : Backends) (destinations : List Destination)
    (time : Timestamp) :
    BackupReport.warnings ⟨time, destinations.map world.resultAt⟩ =
      (destinations.filter fun destination =>
        (destination.repository, .backup) ∈ world.repositories.failing).map fun destination =>
          s!"backup to {destination.repository} failed: " ++ refusalOf destination := by
  unfold BackupReport.warnings BackupReport.failed
  rw [List.filter_map, List.map_map]
  have failed : ((fun result => !BackupResult.succeeded result) ∘ world.resultAt) =
      fun destination =>
        decide ((destination.repository, RepositoryOp.backup) ∈ world.repositories.failing) := by
    funext destination
    rw [Function.comp_apply, world.succeeded_resultAt, Bool.not_not]
  rw [failed]
  refine List.map_congr_left fun destination member => ?_
  have refuses := of_decide_eq_true (List.mem_filter.1 member).2
  rw [Function.comp_apply, world.resultAt_eq, if_pos refuses]
  rfl

/-! ### Volume tools that work -/

theorem isOk_of_unmounts {pool : ThinPool} {before final : Roster}
    {outcome : Except Failure Volume} (valid : checkVolumeId volume = .ok ())
    (works : ∀ op, ¬world.Fails op) (there : (world.stored volume).isSome = true)
    (unmounts : Pool.Unmounts pool volume before exchanges outcome final)
    (answered : Answered world exchanges last) : outcome.isOk = true := by
  cases outcome with
  | ok volume => rfl
  | error failure =>
    rcases unmounts_error valid unmounts answered with missing | fails | fails | fails
    · rw [missing] at there
      cases there
    all_goals exact absurd fails (works _)

theorem isOk_of_mounts {pool : ThinPool} {before final : Roster}
    {outcome : Except Failure Volume} (valid : checkVolumeId volume = .ok ())
    (works : ∀ op, ¬world.Fails op) {size : Size}
    (free : world.stored volume = some ⟨size, none⟩)
    (mounts : Pool.Mounts pool volume target before exchanges outcome final)
    (answered : Answered world exchanges last) : outcome.isOk = true := by
  cases outcome with
  | ok volume => rfl
  | error failure =>
    rcases mounts_error valid mounts answered with
      missing | ⟨_, _, there, _⟩ | fails | fails | fails
    · rw [free] at missing
      cases missing
    · rw [free] at there
      cases there
    all_goals exact absurd fails (works _)

theorem Answered.works (answered : Answered world exchanges last)
    (works : ∀ op, ¬world.Fails op) : ∀ op, ¬last.Fails op := fun op fails =>
  works op ((answered.fails_iff op).1 fails)

/-! ### Releases -/

/-- What a release of a volume gives where the volume tools work: the reason against its backups, or
the report of them. -/
def Backends.releasedBy (world : Backends) (settings : Settings) (now : Instant) :
    Option String → Released
  | some reason => ⟨⟨.ofInstant now, []⟩, some reason⟩
  | none => ⟨⟨.ofInstant now, settings.destinations.map world.resultAt⟩, none⟩

/-- A volume leaves its target well, whatever the repositories do. -/
theorem outcome_of_departs {reason : Option String} {before final : Roster}
    {outcome : Except Failure Released} (valid : checkVolumeId volume = .ok ())
    (works : ∀ op, ¬world.Fails op) (there : (world.stored volume).isSome = true)
    (departs : Agent.Departs settings now volume before reason exchanges outcome final)
    (answered : Answered world exchanges last) :
    outcome = .ok (world.releasedBy settings now reason) := by
  cases departs with
  | stuck left =>
    cases isOk_of_unmounts valid works there (Pool.unmounts_of_converses left) answered
  | skipped left => rfl
  | unstaged left staged =>
    obtain ⟨first, leaving, staging⟩ := Answered.append_iff.1 answered
    obtain ⟨size, free⟩ := unmounts_ok valid (Pool.unmounts_of_converses left) leaving
    cases isOk_of_mounts valid (leaving.works works) free (Pool.mounts_of_converses staged) staging
  | @backedUp _ _ _ _ _ _ _ report _ ended _ left staged backed freed =>
    obtain ⟨first, leaving, departing⟩ := Answered.append_iff.1 answered
    obtain ⟨second, staging, departing⟩ := Answered.append_iff.1 departing
    obtain ⟨third, backing, ending⟩ := Answered.append_iff.1 departing
    obtain ⟨size, place, mounted, _⟩ := mounts_ok valid (Pool.mounts_of_converses staged) staging
    have kept : (third.stored volume).isSome = true := by
      rw [stored_of_backupAll backed backing, mounted]
      rfl
    have well := isOk_of_unmounts valid (backing.works (staging.works (leaving.works works))) kept
      (Pool.unmounts_of_converses freed) ending
    cases ended with
    | error failure => cases well
    | ok freedVolume =>
      have told := report_of_backupAll backed backing
      rw [staging.resultAt_eq, leaving.resultAt_eq] at told
      rw [told]
      rfl

theorem outcome_of_releases {outcome : Except Failure Released}
    (valid : checkVolumeId volume = .ok ()) (absolute : target.isAbsolute = true)
    (works : ∀ op, ¬world.Fails op) {stored : StoredVolume}
    (there : world.stored volume = some stored)
    (course : Agent.Releases settings now volume target agent exchanges outcome after)
    (answered : Answered world exchanges last) :
    outcome = .ok (world.releasedBy settings now
      (agent.skipReason? (world.volumes.listed volume stored) volume)) := by
  cases course with
  | refused invalid =>
    rw [Agent.checkUnpublish_of_valid valid absolute] at invalid
    cases invalid
  | unlisted _ looked =>
    cases Pool.finds_of_converses looked with
    | unlisted failure => exact absurd answered.list_error (works .list)
  | missing _ looked =>
    obtain ⟨_, found, _⟩ := finds_ok (Pool.finds_of_converses looked) answered
    rw [there] at found
    cases found
  | @departed _ current _ _ _ _ _ looked departs =>
    obtain ⟨seen, looking, departing⟩ := Answered.append_iff.1 answered
    obtain ⟨_, found, kept⟩ := finds_ok (Pool.finds_of_converses looked) looking
    rw [there] at found
    cases found
    have still : (seen.stored volume).isSome = true := by
      rw [kept, there]
      rfl
    rw [outcome_of_departs valid (looking.works works) still departs departing]
    unfold Backends.releasedBy
    rw [looking.resultAt_eq]

/-- Repositories that fail neither block nor distort a release. Whatever the agent knows and
whichever backups fail, a release of a volume that is there comes out well and leaves the volume
unmounted, as long as no operation of the volume tools fails. Unless it is skipped, each entry of
the destinations is asked once for a backup of the staged volume, all with the time of the request
cut to whole seconds; the report has one result for each entry in order, with an error just where
the backup failed, and the warnings tell of those. Where it is skipped no repository is asked, the
report is empty and the reason is the only warning. -/
theorem released_despite_outage (settings : Settings) (agent : Agent) (now : Instant)
    (valid : checkVolumeId volume = .ok ()) (absolute : target.isAbsolute = true)
    (there : (world.stored volume).isSome = true) (works : ∀ op, ¬world.Fails op) :
    ∃ released after last,
      world.hold agent (Agent.unpublish settings now volume target) =
        ((.ok released, after), last) ∧
      (∃ size, last.stored volume = some ⟨size, none⟩) ∧
      after.phase volume = .unpublished ∧
      (released.skipped = none ↔
        agent.pending.contains volume = false ∧
          (world.volumes.targetOf volume).isSome = true) ∧
      (released.skipped = none →
        last.repositories.calls = world.repositories.calls ++
          settings.destinations.map
            (.backup · volume (settings.volumePoint volume) ⟨.ofUnix now.seconds 0⟩) ∧
        released.report = ⟨⟨.ofUnix now.seconds 0⟩, settings.destinations.map fun destination =>
          ⟨destination.repository,
            if (destination.repository, .backup) ∈ world.repositories.failing then
              some (refusalOf destination)
            else none⟩⟩ ∧
        released.warnings =
          (settings.destinations.filter fun destination =>
            (destination.repository, .backup) ∈ world.repositories.failing).map fun destination =>
              s!"backup to {destination.repository} failed: " ++ refusalOf destination) ∧
      ∀ reason, released.skipped = some reason →
        last.repositories.calls = world.repositories.calls ∧ released.report.results = [] ∧
          released.warnings = [reason] := by
  obtain ⟨stored, there⟩ := Option.isSome_iff_exists.1 there
  generalize held : world.hold agent (Agent.unpublish settings now volume target) = all
  obtain ⟨⟨outcome, after⟩, last⟩ := all
  obtain ⟨exchanges, conversation, answered⟩ := Backends.hold_iff.1 held
  have course := Agent.releases_of_converses conversation
  obtain rfl := outcome_of_releases valid absolute works there course answered
  obtain ⟨phase, free⟩ := unmounted_of_release course answered
  -- What was listed is what is stored, so the reason can be read off the world before the call.
  have counts : agent.skipReason? (world.volumes.listed volume stored) volume = none ↔
      agent.pending.contains volume = false ∧ (world.volumes.targetOf volume).isSome = true := by
    rw [Backends.targetOf_of_stored there]
    exact Agent.skipReason?_eq_none_iff
  have calls := answered.repositoryCalls_eq
  rw [course.repositoryCallsOf_eq, backupsOf_of_release course answered] at calls
  refine ⟨_, after, last, rfl, free, phase, ?_⟩
  generalize agent.skipReason? (world.volumes.listed volume stored) volume = skips at counts ⊢
  cases skips with
  | none =>
    rw [if_pos (counts.1 rfl)] at calls
    refine ⟨counts, fun _ => ⟨calls, ?_, warnings_of_results world _ _⟩, nofun⟩
    rw [← funext world.resultAt_eq]
    rfl
  | some reason =>
    have skipped : ¬(agent.pending.contains volume = false ∧
        (world.volumes.targetOf volume).isSome = true) := fun both => nomatch counts.2 both
    rw [if_neg skipped, List.append_nil] at calls
    refine ⟨counts, nofun, ?_⟩
    intro _ same
    obtain rfl := Option.some.inj same
    exact ⟨calls, rfl, rfl⟩

/-- A volume that was published is released while its one repository refuses backups. -/
theorem released_while_refused :
    ∃ history agent world released after last,
      Session (smallSettings .onCreate) smallStart history agent world ∧
      history.map accountOf = [(.publish smallNow "pg" ⟨"/mnt/a"⟩ none, true)] ∧
      world.hold agent (Agent.unpublish (smallSettings .onCreate) smallNow "pg" ⟨"/mnt/a"⟩) =
        ((.ok released, after), last) ∧
      after.phase "pg" = .unpublished ∧
      released.report.results = [⟨"repo-a", some (refusalOf ⟨"repo-a", .empty⟩)⟩] := by
  obtain ⟨history, account, session⟩ := exists_session_smallPublished .onCreate
  have works : ∀ op, ¬((smallPublished .onCreate).2.2.failing [] [("repo-a", .backup)]).Fails op :=
    fun op => List.not_mem_nil
  obtain ⟨released, after, last, held, _, phase, counts, backed, _⟩ :=
    released_despite_outage (smallSettings .onCreate) (smallPublished .onCreate).2.1 smallNow
      (by decide : checkVolumeId "pg" = .ok ()) (by decide : Path.isAbsolute ⟨"/mnt/a"⟩ = true)
      (by decide +kernel) works
  have asked : released.skipped = none :=
    counts.2 ⟨by decide +kernel, by decide +kernel⟩
  refine ⟨history, _, _, released, after, last, session.failing [] [("repo-a", .backup)],
    account.trans (by decide +kernel), held, phase, ?_⟩
  rw [(backed asked).2.1]
  rfl

end Memory

end NodeAgent
