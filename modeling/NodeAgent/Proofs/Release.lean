/-
This file says how a release can go. It looks the volume up and then either leaves it out of the
backups, for a reason, or carries it to the staging path, backs it up there and unmounts it. The
cases are the ways out of it; what the agent knows afterwards depends on the outcome only.
-/

import NodeAgent.Proofs.Course

namespace NodeAgent.Agent

open Operation

variable {settings : Settings} {now : Instant} {volume : String} {target : Path}
  {agent after : Agent} {exchanges : List (Exchange backends)} {outcome : Except Failure Released}

/-! ### Courses -/

/-- What is checked of a release before anything is done. -/
def checkUnpublish (volume : String) (target : Path) : Except Failure Unit := do
  checkVolumeId volume
  checkTargetPath target

/-- The agent after a release that did something to the pool: a volume that was released has no
lock, one whose release failed keeps it. -/
def released (agent : Agent) (volume : String) (roster : Roster) :
    Except Failure Released → Agent
  | .ok _ => ((agent.locked volume).moved volume .unpublished roster agent.pending).unlocked volume
  | .error _ => (agent.locked volume).moved volume .failed roster agent.pending

/-- How a volume that was found can leave its target, with the reason where it is not backed up. -/
inductive Departs (settings : Settings) (now : Instant) (volume : String) (before : Roster) :
    Option String → List (Exchange backends) → Except Failure Released → Roster → Prop where
  | stuck {reason leaving failure last}
      (left : Converses (Pool.ensureUnmounted settings.pool volume) before leaving
        (.error failure) last) :
      Departs settings now volume before reason leaving (.error failure) last
  | skipped {reason leaving found last}
      (left : Converses (Pool.ensureUnmounted settings.pool volume) before leaving (.ok found)
        last) :
      Departs settings now volume before (some reason) leaving
        (.ok ⟨⟨.ofInstant now, []⟩, some reason⟩) last
  | unstaged {leaving found middle staging failure last}
      (left : Converses (Pool.ensureUnmounted settings.pool volume) before leaving (.ok found)
        middle)
      (staged : Converses
        (Pool.ensureMounted settings.pool volume (settings.volumePoint volume)) middle staging
        (.error failure) last) :
      Departs settings now volume before none (leaving ++ staging) (.error failure) last
  | backedUp {leaving found middle staging placed final backing report ending ended last}
      (left : Converses (Pool.ensureUnmounted settings.pool volume) before leaving (.ok found)
        middle)
      (staged : Converses
        (Pool.ensureMounted settings.pool volume (settings.volumePoint volume)) middle staging
        (.ok placed) final)
      (backed : Dialogue.Held (Backup.backupAll volume (settings.volumePoint volume)
        settings.destinations (.ofInstant now)) backing report)
      (freed : Converses (Pool.ensureUnmounted settings.pool volume) final ending ended last) :
      Departs settings now volume before none (leaving ++ (staging ++ (backing ++ ending)))
        (ended.map fun _ => ⟨report, none⟩) last

/-- How a release can go. -/
inductive Releases (settings : Settings) (now : Instant) (volume : String) (target : Path)
    (agent : Agent) : List (Exchange backends) → Except Failure Released → Agent → Prop where
  | refused {failure} (invalid : checkUnpublish volume target = .error failure) :
      Releases settings now volume target agent [] (.error failure) agent
  | unlisted {looking failure roster}
      (valid : checkUnpublish volume target = .ok ())
      (looked : Converses (Pool.find settings.pool volume) agent.roster looking (.error failure)
        roster) :
      Releases settings now volume target agent looking (.error failure)
        (agent.released volume roster (.error failure))
  | missing {looking roster}
      (valid : checkUnpublish volume target = .ok ())
      (looked : Converses (Pool.find settings.pool volume) agent.roster looking (.ok none) roster) :
      Releases settings now volume target agent looking
        (.error (.notFound s!"volume {volume} does not exist"))
        (agent.released volume roster (.error (.notFound s!"volume {volume} does not exist")))
  | departed {looking current roster departing outcome last}
      (valid : checkUnpublish volume target = .ok ())
      (looked : Converses (Pool.find settings.pool volume) agent.roster looking
        (.ok (some current)) roster)
      (departs : Departs settings now volume roster (agent.skipReason? current volume) departing
        outcome last) :
      Releases settings now volume target agent (looking ++ departing) outcome
        (agent.released volume last outcome)

/-! ### Every conversation takes a course -/

@[simp] theorem phase_moved (agent : Agent) (volume : String) (phase : Phase) (roster : Roster)
    (pending : Table Unit) : (agent.moved volume phase roster pending).phase volume = phase := by
  show ((agent.phases.insert volume phase).get? volume).getD .idle = phase
  rw [Table.get?_insert_self]
  rfl

theorem phase_released_ok (agent : Agent) (volume : String) (roster : Roster)
    (released : Released) :
    (agent.released volume roster (.ok released)).phase volume = .unpublished :=
  phase_moved (agent.locked volume) volume .unpublished roster agent.pending

/-- The agent once the lock of a volume was given back. -/
def relinquished (agent : Agent) (volume : String) : Agent :=
  if agent.phase volume = .unpublished then agent.unlocked volume else agent

theorem converses_releaseLock_bind_iff {Later : Type} {next : PUnit → Operation Agent Later}
    {last : Except Failure Later} :
    Converses (releaseLock volume >>= next) agent exchanges last after ↔
      Converses (next ⟨⟩) (agent.relinquished volume) exchanges last after := Iff.rfl

theorem relinquished_recorded (agent : Agent) (volume : String) (phase : Phase) (roster : Roster)
    (outcome : Except Failure Released) (unpublished : outcome.isOk = true → phase = .unpublished) :
    (((agent.locked volume).moved volume phase roster agent.pending).recorded volume
        outcome).relinquished volume =
      agent.released volume roster outcome := by
  cases outcome with
  | ok result =>
    rw [unpublished rfl, recorded_ok]
    exact if_pos (phase_moved ..)
  | error failure =>
    rw [recorded_moved]
    refine if_neg ?_
    rw [phase_moved]
    decide

/-- Takes a volume that was found away from its target, by way of the backups unless there is a
reason against them. -/
def depart (settings : Settings) (now : Instant) (volume : String) :
    Option String → Operation Agent Released
  | some reason => do
    let _ ← onPool (Pool.ensureUnmounted settings.pool volume)
    setPhase volume .unpublished
    return ⟨⟨.ofInstant now, []⟩, some reason⟩
  | none => do
    let _ ← onPool (Pool.ensureUnmounted settings.pool volume)
    let _ ← onPool (Pool.ensureMounted settings.pool volume (settings.volumePoint volume))
    setPhase volume .backingUp
    let report ← ofDialogue (Backup.backupAll volume (settings.volumePoint volume)
      settings.destinations (.ofInstant now))
    let _ ← onPool (Pool.ensureUnmounted settings.pool volume)
    setPhase volume .unpublished
    return ⟨report, none⟩

theorem unpublishLocked_eq (settings : Settings) (now : Instant) (volume : String) :
    unpublishLocked settings now volume = (do
      setPhase volume .stagingRemount
      let found ← onPool (Pool.find settings.pool volume)
      match found with
      | some current =>
        let agent ← get
        depart settings now volume (agent.skipReason? current volume)
      | none => throw (.notFound s!"volume {volume} does not exist")) := by
  unfold unpublishLocked
  refine bind_congr fun _ => bind_congr fun found => ?_
  cases found with
  | none => rfl
  | some current =>
    simp only [pure_bind]
    refine bind_congr fun agent => ?_
    cases agent.skipReason? current volume with
    | none => rfl
    | some reason => rfl

theorem departs_of_converses {reason : Option String} {roster : Roster} {pending : Table Unit}
    (conversation : Converses (depart settings now volume reason)
      (agent.moved volume .stagingRemount roster pending) exchanges outcome after) :
    ∃ last phase, Departs settings now volume roster reason exchanges outcome last ∧
      after = agent.moved volume phase last pending ∧
      (outcome.isOk = true → phase = .unpublished) := by
  cases reason with
  | some reason =>
    rcases converses_onPool_bind_iff.1 conversation with
      ⟨leaving, rest, found, last, rfl, left, ended⟩ | ⟨failure, last, rfl, left, rfl⟩
    · rw [converses_setPhase_bind_iff] at ended
      obtain ⟨rfl, rfl, rfl⟩ := converses_pure_iff.1 ended
      rw [List.append_nil]
      exact ⟨last, .unpublished, .skipped left, rfl, fun _ => rfl⟩
    · exact ⟨last, .stagingRemount, .stuck left, rfl, fun well => nomatch well⟩
  | none =>
    rcases converses_onPool_bind_iff.1 conversation with
      ⟨leaving, rest, found, middle, rfl, left, further⟩ | ⟨failure, last, rfl, left, rfl⟩
    · rcases converses_onPool_bind_iff.1 further with
        ⟨staging, rest, placed, final, rfl, staged, backing⟩ | ⟨failure, last, rfl, staged, rfl⟩
      · rw [converses_setPhase_bind_iff, converses_ofDialogue_bind_iff] at backing
        obtain ⟨backing, rest, report, rfl, backed, freeing⟩ := backing
        rcases converses_onPool_bind_iff.1 freeing with
          ⟨ending, rest, freed, last, rfl, freed, ended⟩ | ⟨failure, last, rfl, freed, rfl⟩
        · rw [converses_setPhase_bind_iff] at ended
          obtain ⟨rfl, rfl, rfl⟩ := converses_pure_iff.1 ended
          rw [List.append_nil]
          exact ⟨last, .unpublished, .backedUp left staged backed freed, rfl, fun _ => rfl⟩
        · exact ⟨last, .backingUp, .backedUp left staged backed freed, rfl,
            fun well => nomatch well⟩
      · exact ⟨last, .stagingRemount, .unstaged left staged, rfl, fun well => nomatch well⟩
    · exact ⟨last, .stagingRemount, .stuck left, rfl, fun well => nomatch well⟩

theorem converses_of_departs {reason : Option String} {roster last : Roster} (agent : Agent)
    (pending : Table Unit)
    (departs : Departs settings now volume roster reason exchanges outcome last) :
    ∃ phase, Converses (depart settings now volume reason)
        (agent.moved volume .stagingRemount roster pending) exchanges outcome
        (agent.moved volume phase last pending) ∧
      (outcome.isOk = true → phase = .unpublished) := by
  cases departs with
  | stuck left =>
    refine ⟨.stagingRemount, ?_, fun well => nomatch well⟩
    cases reason with
    | none | some reason =>
      exact converses_onPool_bind_iff.2 (Or.inr ⟨_, last, rfl, left, rfl⟩)
  | skipped left =>
    refine ⟨.unpublished, ?_, fun _ => rfl⟩
    refine converses_onPool_bind_iff.2 (Or.inl ⟨_, [], _, _, (List.append_nil _).symm, left, ?_⟩)
    exact converses_setPhase_bind_iff.2 (.done _)
  | unstaged left staged =>
    refine ⟨.stagingRemount, ?_, fun well => nomatch well⟩
    refine converses_onPool_bind_iff.2 (Or.inl ⟨_, _, _, _, rfl, left, ?_⟩)
    exact converses_onPool_bind_iff.2 (Or.inr ⟨_, last, rfl, staged, rfl⟩)
  | @backedUp _ _ _ _ _ _ _ _ _ ended _ left staged backed freed =>
    cases ended with
    | error failure =>
      refine ⟨.backingUp, ?_, fun well => nomatch well⟩
      refine converses_onPool_bind_iff.2 (Or.inl ⟨_, _, _, _, rfl, left, ?_⟩)
      refine converses_onPool_bind_iff.2 (Or.inl ⟨_, _, _, _, rfl, staged, ?_⟩)
      rw [converses_setPhase_bind_iff]
      refine converses_ofDialogue_bind_iff.2 ⟨_, _, _, rfl, backed, ?_⟩
      exact converses_onPool_bind_iff.2 (Or.inr ⟨_, last, rfl, freed, rfl⟩)
    | ok found =>
      refine ⟨.unpublished, ?_, fun _ => rfl⟩
      refine converses_onPool_bind_iff.2 (Or.inl ⟨_, _, _, _, rfl, left, ?_⟩)
      refine converses_onPool_bind_iff.2 (Or.inl ⟨_, _, _, _, rfl, staged, ?_⟩)
      rw [converses_setPhase_bind_iff]
      refine converses_ofDialogue_bind_iff.2 ⟨_, _, _, rfl, backed, ?_⟩
      refine converses_onPool_bind_iff.2
        (Or.inl ⟨_, [], _, _, (List.append_nil _).symm, freed, ?_⟩)
      exact converses_setPhase_bind_iff.2 (.done _)

/-- Releasing checks the request first, then works under the lock, and gives the lock back whatever
came of it. -/
theorem unpublish_eq (settings : Settings) (now : Instant) (volume : String) (target : Path) :
    unpublish settings now volume target = (do
      fromResult (checkUnpublish volume target)
      takeLock volume
      let result ← attempt (recordingFailure volume (unpublishLocked settings now volume))
      releaseLock volume
      fromResult result) := by
  unfold unpublish checkUnpublish
  cases checkVolumeId volume with
  | error failure => rfl
  | ok _ =>
    cases checkTargetPath target with
    | error failure => rfl
    | ok _ => rfl

theorem converses_unpublish_iff_of_valid (valid : checkUnpublish volume target = .ok ()) :
    Converses (unpublish settings now volume target) agent exchanges outcome after ↔
      ∃ middle, Converses (unpublishLocked settings now volume) (agent.locked volume) exchanges
          outcome middle ∧
        after = (middle.recorded volume outcome).relinquished volume := by
  rw [unpublish_eq, valid, converses_fromResult_ok_bind_iff, converses_takeLock_bind_iff,
    converses_attempt_bind_iff]
  constructor
  · rintro ⟨working, rest, ended, last, rfl, work, finishing⟩
    obtain ⟨middle, course, rfl⟩ := converses_recordingFailure_iff.1 work
    rw [converses_releaseLock_bind_iff] at finishing
    obtain ⟨rfl, rfl, rfl⟩ := converses_fromResult_iff.1 finishing
    rw [List.append_nil]
    exact ⟨middle, course, rfl⟩
  · rintro ⟨middle, course, rfl⟩
    refine ⟨exchanges, [], outcome, _, (List.append_nil _).symm,
      converses_recordingFailure_iff.2 ⟨middle, course, rfl⟩, ?_⟩
    exact converses_releaseLock_bind_iff.2 (converses_fromResult_iff.2 ⟨rfl, rfl, rfl⟩)

/-- Every conversation of a release takes a course. -/
theorem releases_of_converses
    (conversation : Converses (unpublish settings now volume target) agent exchanges outcome
      after) :
    Releases settings now volume target agent exchanges outcome after := by
  generalize valid : checkUnpublish volume target = check
  cases check with
  | error failure =>
    rw [unpublish_eq, valid, converses_fromResult_error_bind_iff] at conversation
    obtain ⟨rfl, rfl, rfl⟩ := conversation
    exact .refused valid
  | ok _ =>
    obtain ⟨middle, course, rfl⟩ := (converses_unpublish_iff_of_valid valid).1 conversation
    rw [unpublishLocked_eq, converses_begin_iff] at course
    rcases converses_onPool_bind_iff.1 course with
      ⟨looking, departing, found, roster, rfl, looked, decided⟩ |
      ⟨failure, roster, rfl, looked, rfl⟩
    · cases found with
      | none =>
        obtain ⟨rfl, rfl, rfl⟩ := converses_throw_iff.1 decided
        rw [List.append_nil]
        have left := relinquished_recorded agent volume .stagingRemount roster
          (.error (.notFound s!"volume {volume} does not exist")) fun well => nomatch well
        exact left ▸ .missing valid looked
      | some current =>
        obtain ⟨last, phase, departs, rfl, unpublished⟩ :=
          departs_of_converses (converses_get_bind_iff.1 decided)
        have left := relinquished_recorded agent volume phase last outcome unpublished
        exact left ▸ .departed valid looked departs
    · have left := relinquished_recorded agent volume .stagingRemount roster (.error failure)
        fun well => nomatch well
      exact left ▸ .unlisted valid looked

/-- Every course of a release is one of a conversation. -/
theorem converses_of_releases
    (course : Releases settings now volume target agent exchanges outcome after) :
    Converses (unpublish settings now volume target) agent exchanges outcome after := by
  cases course with
  | refused invalid =>
    rw [unpublish_eq, invalid]
    exact .done _
  | @unlisted _ failure roster valid looked =>
    refine (converses_unpublish_iff_of_valid valid).2 ⟨_, ?_, (relinquished_recorded agent volume
      .stagingRemount roster (.error failure) fun well => nomatch well).symm⟩
    rw [unpublishLocked_eq]
    exact converses_onPool_bind_iff.2 (Or.inr ⟨failure, roster, rfl, looked, rfl⟩)
  | @missing _ roster valid looked =>
    refine (converses_unpublish_iff_of_valid valid).2 ⟨_, ?_, (relinquished_recorded agent volume
      .stagingRemount roster (.error (.notFound s!"volume {volume} does not exist"))
      fun well => nomatch well).symm⟩
    rw [unpublishLocked_eq]
    exact converses_onPool_bind_iff.2
      (Or.inl ⟨exchanges, [], none, roster, (List.append_nil _).symm, looked, .done _⟩)
  | @departed looking current roster departing _ last valid looked departs =>
    obtain ⟨phase, departed, unpublished⟩ :=
      converses_of_departs (agent.locked volume) agent.pending departs
    refine (converses_unpublish_iff_of_valid valid).2
      ⟨_, ?_, (relinquished_recorded agent volume phase last outcome unpublished).symm⟩
    rw [unpublishLocked_eq]
    exact converses_onPool_bind_iff.2 (Or.inl
      ⟨looking, departing, some current, roster, rfl, looked, converses_get_bind_iff.2 departed⟩)

/-- The conversations of a release are those that its courses have. -/
theorem converses_unpublish_iff :
    Converses (unpublish settings now volume target) agent exchanges outcome after ↔
      Releases settings now volume target agent exchanges outcome after :=
  ⟨releases_of_converses, converses_of_releases⟩

/-- A release that is refused does nothing. -/
theorem Releases.of_refused {failure : Failure}
    (course : Releases settings now volume target agent exchanges outcome after)
    (invalid : checkUnpublish volume target = .error failure) :
    exchanges = [] ∧ outcome = .error failure ∧ after = agent := by
  cases course with
  | refused refusal =>
    cases refusal.symm.trans invalid
    exact ⟨rfl, rfl, rfl⟩
  | unlisted valid | missing valid | departed valid =>
    rw [valid] at invalid
    cases invalid

theorem checkVolumeId_of_checkUnpublish (valid : checkUnpublish volume target = .ok ()) :
    checkVolumeId volume = .ok () := by
  unfold checkUnpublish at valid
  cases checked : checkVolumeId volume with
  | ok _ => rfl
  | error failure =>
    rw [checked] at valid
    cases valid

end NodeAgent.Agent
