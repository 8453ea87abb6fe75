/-
This file shows that between calls the recorded phase of a volume is true. The phase is kept by the
agent and the mounts by the backends, so the statement is about both after a session: a published
volume is mounted at the target of its last publish that came out well, and an unpublished one is
there and not mounted. A call for another volume changes neither of the two.
-/

import NodeAgent.Proofs.Store

namespace NodeAgent

open Operation

namespace Completed

/-- The call was for the volume and passed what is checked before anything is done. -/
def Passes (settings : Settings) (volume : String) : Completed → Prop
  | publish _ name target capacity _ _ _ =>
    name = volume ∧ Agent.checkPublish settings name target capacity = .ok ()
  | unpublish _ name target _ _ => name = volume ∧ Agent.checkUnpublish name target = .ok ()

/-- The volume that the call was for. -/
def volume : Completed → String
  | publish _ name _ _ _ _ _ | unpublish _ name _ _ _ => name

end Completed

/-- The last publish of the volume that came out well was for this target. -/
def LastPublishedAt (volume : String) (target : Path) (history : List Completed) : Prop :=
  ∃ before now capacity exchanges progress published after,
    history = before ++
      .publish now volume target capacity exchanges progress (.ok published) :: after ∧
    ∀ call ∈ after, ¬call.Succeeds volume

theorem LastPublishedAt.append_singleton {volume : String} {target : Path}
    {history : List Completed} {call : Completed}
    (published : LastPublishedAt volume target history) (fails : ¬call.Succeeds volume) :
    LastPublishedAt volume target (history ++ [call]) := by
  obtain ⟨before, now, capacity, exchanges, progress, done, after, rfl, quiet⟩ := published
  refine ⟨before, now, capacity, exchanges, progress, done, after ++ [call], ?_, ?_⟩
  · rw [List.append_assoc, List.cons_append]
  · intro other member
    rcases List.mem_append.1 member with old | new
    · exact quiet other old
    · rw [List.mem_singleton.1 new]
      exact fails

namespace Agent

variable {settings : Settings} {name : String} {first second third : Agent}

/-! ### What a call leaves alone -/

/-- Agents that know the same of a volume, apart from the roster. -/
structure Alike (name : String) (first second : Agent) : Prop where
  phases : first.phases.get? name = second.phases.get? name
  pending : first.pending.get? name = second.pending.get? name
  locks : first.locks.get? name = second.locks.get? name

theorem Alike.symm (alike : Alike name first second) : Alike name second first :=
  ⟨alike.phases.symm, alike.pending.symm, alike.locks.symm⟩

theorem Alike.trans (alike : Alike name first second) (further : Alike name second third) :
    Alike name first third :=
  ⟨alike.phases.trans further.phases, alike.pending.trans further.pending,
    alike.locks.trans further.locks⟩

theorem Alike.phase_eq (alike : Alike name first second) : first.phase name = second.phase name :=
  congrArg (·.getD .idle) alike.phases

theorem Alike.contains_pending (alike : Alike name first second) :
    first.pending.contains name = second.pending.contains name :=
  congrArg Option.isSome alike.pending

theorem alike_moved {volume : String} (different : name ≠ volume) (agent : Agent) (phase : Phase)
    (roster : Roster) {pending : Table Unit}
    (kept : pending.get? name = agent.pending.get? name) :
    Alike name agent ((agent.locked volume).moved volume phase roster pending) where
  phases := (Table.get?_insert_other _ _ different).symm
  pending := kept.symm
  locks := (Table.get?_insert_other _ _ different).symm

theorem get?_mark_other {volume : String} (different : name ≠ volume) (how : Filling)
    (pending : Table Unit) : (how.mark volume pending).get? name = pending.get? name := by
  cases how with
  | unfilled => rfl
  | nothingFound | restored => exact Table.get?_erase_other _ different
  | broken => exact Table.get?_insert_other _ _ different

theorem alike_released {volume : String} (different : name ≠ volume) (agent : Agent)
    (roster : Roster) (outcome : Except Failure Released) :
    Alike name agent (agent.released volume roster outcome) := by
  cases outcome with
  | error failure => exact alike_moved different agent .failed roster rfl
  | ok released =>
    have moved := alike_moved different agent .unpublished roster (Eq.refl _)
    exact ⟨moved.phases, moved.pending,
      moved.locks.trans (Table.get?_erase_other _ different).symm⟩

/-- A call leaves what is known of other volumes as it is. -/
theorem alike_of_step {agent after : Agent} {call : Completed}
    (step : Step settings agent call after) (different : name ≠ call.volume) :
    Alike name agent after := by
  cases step with
  | publish course =>
    cases course with
    | refused => exact ⟨rfl, rfl, rfl⟩
    | absent | alreadyMounted => exact alike_moved different agent _ _ rfl
    | broken | unmounted | mounted =>
      exact alike_moved different agent _ _ (get?_mark_other different _ _)
  | unpublish course =>
    cases course with
    | refused => exact ⟨rfl, rfl, rfl⟩
    | unlisted | missing | departed => exact alike_released different agent _ _

end Agent

namespace Memory

variable {settings : Settings} {start world last : Backends} {history : List Completed}
  {agent after : Agent} {call : Completed} {volume : String}

/-! ### Calls for other volumes -/

theorem stored_of_step_other (step : Step settings agent call after)
    (answered : Answered world call.exchanges last) (different : call.volume ≠ volume) :
    last.stored volume = world.stored volume := by
  cases step with
  | @publish now name target capacity exchanges progress outcome _ course =>
    generalize checked : Agent.checkPublish settings name target capacity = check
    cases check with
    | error failure =>
      obtain ⟨rfl, _, _⟩ := course.of_refused checked
      cases answered
      rfl
    | ok _ =>
      have valid := Agent.checkVolumeId_of_checkPublish checked
      refine answered.stored_eq fun exchange member => ?_
      rcases course.mem_cases exchange member with ⟨destination, asked⟩ | restoring | upkeep
      · rw [asked]
        exact id
      · exact restoring.spares valid different
      · exact upkeep.spares valid different
  | @unpublish now name target exchanges outcome _ course =>
    generalize checked : Agent.checkUnpublish name target = check
    cases check with
    | error failure =>
      obtain ⟨rfl, _⟩ := course.of_refused checked
      cases answered
      rfl
    | ok _ =>
      have valid := Agent.checkVolumeId_of_checkUnpublish checked
      refine answered.stored_eq fun exchange member => ?_
      rcases course.mem_cases exchange member with mounting | ⟨destination, source, time, asked⟩
      · exact mounting.spares valid different
      · rw [asked]
        exact id

/-! ### At rest -/

/-- The phase of a volume tells the truth after a session. -/
structure AtRest (settings : Settings) (history : List Completed) (agent : Agent)
    (world : Backends) (volume : String) : Prop where
  rests : agent.phase volume ∈ [.idle, .published, .unpublished, .failed]
  published : agent.phase volume = .published →
    ∃ target size place, LastPublishedAt volume target history ∧
      world.stored volume = some ⟨size, some place⟩ ∧ place.same target = true
  unpublished : agent.phase volume = .unpublished →
    ∃ size, world.stored volume = some ⟨size, none⟩
  idle : agent.phase volume = .idle → ∀ call ∈ history, ¬call.Passes settings volume

theorem atRest_of_failed (failed : agent.phase volume = .failed) :
    AtRest settings history agent world volume where
  rests := by simp [failed]
  published published := by
    rw [failed] at published
    cases published
  unpublished unpublished := by
    rw [failed] at unpublished
    cases unpublished
  idle idle := by
    rw [failed] at idle
    cases idle

/-- A call that did nothing to a volume leaves its phase true. -/
theorem AtRest.append_singleton (rest : AtRest settings history agent world volume)
    (samePhase : after.phase volume = agent.phase volume)
    (sameStored : last.stored volume = world.stored volume)
    (fails : ¬call.Succeeds volume) (stops : ¬call.Passes settings volume) :
    AtRest settings (history ++ [call]) after last volume where
  rests := by
    rw [samePhase]
    exact rest.rests
  published published := by
    rw [samePhase] at published
    obtain ⟨target, size, place, latest, mounted, same⟩ := rest.published published
    exact ⟨target, size, place, latest.append_singleton fails, sameStored.trans mounted, same⟩
  unpublished unpublished := by
    rw [samePhase] at unpublished
    rw [sameStored]
    exact rest.unpublished unpublished
  idle idle := by
    rw [samePhase] at idle
    intro other member
    rcases List.mem_append.1 member with old | new
    · exact rest.idle idle other old
    · rw [List.mem_singleton.1 new]
      exact stops

theorem atRest_of_mounted {now : Instant} {target : Path} {capacity : Option Int}
    {exchanges : List (Exchange backends)} {progress : Progress} {done : Published}
    (phase : after.phase volume = .published)
    (mounted : ∃ size place, last.stored volume = some ⟨size, some place⟩ ∧
      place.same target = true) :
    AtRest settings
      (history ++ [.publish now volume target capacity exchanges progress (.ok done)]) after last
      volume where
  rests := by simp [phase]
  published _ := by
    obtain ⟨size, place, stored, same⟩ := mounted
    refine ⟨target, size, place, ?_, stored, same⟩
    exact ⟨history, now, capacity, exchanges, progress, done, [], rfl,
      fun other member => nomatch member⟩
  unpublished unpublished := by
    rw [phase] at unpublished
    cases unpublished
  idle idle := by
    rw [phase] at idle
    cases idle

theorem atRest_of_unmounted (phase : after.phase volume = .unpublished)
    (free : ∃ size, last.stored volume = some ⟨size, none⟩) :
    AtRest settings history after last volume where
  rests := by simp [phase]
  published published := by
    rw [phase] at published
    cases published
  unpublished _ := free
  idle idle := by
    rw [phase] at idle
    cases idle

/-! ### Sessions -/

/-- A volume that a listing shows as mounted at a path is stored as mounted there. -/
theorem mounted_of_isMountedAt {shown : Volume} {stored : StoredVolume} {target : Path}
    (sameMounted : shown.mounted = stored.target.isSome) (sameTarget : shown.target = stored.target)
    (there : shown.isMountedAt target = true) :
    ∃ size place, stored = ⟨size, some place⟩ ∧ place.same target = true := by
  obtain ⟨size, mounted⟩ := stored
  unfold Volume.isMountedAt at there
  rw [sameMounted, sameTarget, Bool.and_eq_true] at there
  cases mounted with
  | none => cases there.1
  | some place => exact ⟨size, place, rfl, there.2⟩

theorem atRest_of_publish {now : Instant} {target : Path} {capacity : Option Int}
    {exchanges : List (Exchange backends)} {progress : Progress}
    {outcome : Except Failure Published} (rest : AtRest settings history agent world volume)
    (course : Agent.Publishes settings now volume target capacity agent exchanges progress outcome
      after)
    (answered : Answered world exchanges last) :
    AtRest settings
      (history ++ [.publish now volume target capacity exchanges progress outcome]) after last
      volume := by
  cases course with
  | refused invalid =>
    cases answered
    refine rest.append_singleton rfl rfl (fun succeeds => nomatch succeeds.2) fun passes => ?_
    cases invalid.symm.trans passes.2
  | absent | broken | unmounted => exact atRest_of_failed (Agent.phase_moved ..)
  | alreadyMounted valid present there =>
    refine atRest_of_mounted (Agent.phase_moved ..) ?_
    obtain ⟨stored, found, sameMounted, sameTarget⟩ :=
      presents_ok (Pool.presents_of_converses present) answered
    obtain ⟨size, place, rfl, same⟩ := mounted_of_isMountedAt sameMounted sameTarget there
    exact ⟨size, place, found, same⟩
  | mounted valid present notThere filled settled mounted =>
    refine atRest_of_mounted (Agent.phase_moved ..) ?_
    obtain ⟨middle, _, mounting⟩ := Answered.append_iff.1 answered
    exact mounts_ok (Agent.checkVolumeId_of_checkPublish valid)
      (Pool.mounts_of_converses mounted) mounting

/-- A volume that left its target well is stored as not mounted. -/
theorem departs_ok {now : Instant} {reason : Option String} {before final : Roster}
    {exchanges : List (Exchange backends)} {outcome : Except Failure Released}
    (valid : checkVolumeId volume = .ok ())
    (departs : Agent.Departs settings now volume before reason exchanges outcome final)
    (well : outcome.isOk = true) (answered : Answered world exchanges last) :
    ∃ size, last.stored volume = some ⟨size, none⟩ := by
  cases departs with
  | stuck | unstaged => cases well
  | skipped left => exact unmounts_ok valid (Pool.unmounts_of_converses left) answered
  | @backedUp _ _ _ _ _ _ _ _ _ ended _ left staged backed freed =>
    cases ended with
    | error failure => cases well
    | ok freedVolume =>
      obtain ⟨_, _, answered⟩ := Answered.append_iff.1 answered
      obtain ⟨_, _, answered⟩ := Answered.append_iff.1 answered
      obtain ⟨_, _, ending⟩ := Answered.append_iff.1 answered
      exact unmounts_ok valid (Pool.unmounts_of_converses freed) ending

/-- A release that comes out well leaves the volume unmounted and says so. -/
theorem unmounted_of_release {now : Instant} {target : Path}
    {exchanges : List (Exchange backends)} {released : Released}
    (course : Agent.Releases settings now volume target agent exchanges (.ok released) after)
    (answered : Answered world exchanges last) :
    after.phase volume = .unpublished ∧ ∃ size, last.stored volume = some ⟨size, none⟩ := by
  cases course with
  | departed valid looked departs =>
    obtain ⟨found, _, departing⟩ := Answered.append_iff.1 answered
    exact ⟨Agent.phase_released_ok ..,
      departs_ok (Agent.checkVolumeId_of_checkUnpublish valid) departs rfl departing⟩

theorem atRest_of_unpublish {now : Instant} {target : Path}
    {exchanges : List (Exchange backends)} {outcome : Except Failure Released}
    (rest : AtRest settings history agent world volume)
    (course : Agent.Releases settings now volume target agent exchanges outcome after)
    (answered : Answered world exchanges last) :
    AtRest settings (history ++ [.unpublish now volume target exchanges outcome]) after last
      volume := by
  cases outcome with
  | ok released =>
    obtain ⟨phase, free⟩ := unmounted_of_release course answered
    exact atRest_of_unmounted phase free
  | error failure =>
    cases course with
    | refused invalid =>
      cases answered
      refine rest.append_singleton rfl rfl id fun passes => ?_
      cases invalid.symm.trans passes.2
    | unlisted | missing | departed => exact atRest_of_failed (Agent.phase_moved ..)

/-- A call keeps the phase of every volume true, its own and the others. -/
theorem atRest_of_step (rest : AtRest settings history agent world volume)
    (step : Step settings agent call after) (answered : Answered world call.exchanges last) :
    AtRest settings (history ++ [call]) after last volume := by
  by_cases different : call.volume ≠ volume
  · have alike := Agent.alike_of_step step (Ne.symm different)
    refine rest.append_singleton alike.phase_eq.symm
      (stored_of_step_other step answered different) ?_ ?_
    · cases call with
      | publish => exact fun succeeds => different succeeds.1
      | unpublish => exact id
    · cases call with
      | publish => exact fun passes => different passes.1
      | unpublish => exact fun passes => different passes.1
  · obtain rfl := Decidable.not_not.1 different
    cases step with
    | publish course => exact atRest_of_publish rest course answered
    | unpublish course => exact atRest_of_unpublish rest course answered

/-- The recorded phase tells the truth at rest. After every session, whatever was set to fail on
the way, the phase of a volume is idle, published, unpublished or failed; a published volume is
there and mounted at the target of the last publish of it that came out well, an unpublished one is
there and not mounted, and of an idle one no call has passed the checks. -/
theorem phase_true_at_rest (session : Session settings start history agent world)
    (volume : String) : AtRest settings history agent world volume := by
  induction session with
  | fresh roster =>
    exact {
      rests := List.mem_cons_self
      published := fun published => nomatch published
      unpublished := fun unpublished => nomatch unpublished
      idle := fun _ call member => nomatch member }
  | step session step answered inductionHypothesis =>
    exact atRest_of_step inductionHypothesis step answered
  | failing session ops repositoryOps inductionHypothesis =>
    exact {
      rests := inductionHypothesis.rests
      published := inductionHypothesis.published
      unpublished := inductionHypothesis.unpublished
      idle := inductionHypothesis.idle }

/-- A first publish that comes out well leaves the volume mounted where it says. -/
theorem mounted_when_published :
    ∃ history agent world, Session (smallSettings .onCreate) smallStart history agent world ∧
      agent.phase "pg" = .published ∧
      ∃ target size place, LastPublishedAt "pg" target history ∧
        world.stored "pg" = some ⟨size, some place⟩ ∧ place.same target = true := by
  obtain ⟨history, _, session⟩ := exists_session_smallPublished .onCreate
  have phase : (smallPublished .onCreate).2.1.phase "pg" = .published := by decide +kernel
  exact ⟨history, _, _, session, phase, (phase_true_at_rest session "pg").published phase⟩

end Memory

end NodeAgent
