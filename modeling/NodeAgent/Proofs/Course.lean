/-
This file says which courses a publish can take. A course names what a conversation
came to: whether the request was refused, whether the volume could be made present, whether it was
mounted already, and how it was filled. Every conversation of a publish has a course and every
course is one of a conversation, so a statement about all courses is one about all publishes.
-/

import NodeAgent.Agent
import NodeAgent.Proofs.Conversation

namespace NodeAgent

/-- Whether and how a publish filled the volume. -/
inductive Filling where
  | unfilled
  | nothingFound
  | restored (source : Source)
  | broken (source : Source) (failure : Failure)

namespace Filling

/-- The result of filling, as the agent goes on with it. -/
def outcome : Filling → Except Failure (Option Source)
  | unfilled | nothingFound => .ok none
  | restored source => .ok (some source)
  | broken _ failure => .error failure

/-- The phase in which filling ends. -/
def phase : Filling → Phase
  | unfilled => .presenting
  | nothingFound => .selecting
  | restored _ | broken _ _ => .restoring

/-- What filling does to the marks of the volumes that still have to be filled. -/
def mark (volume : String) (pending : Table Unit) : Filling → Table Unit
  | unfilled => pending
  | nothingFound | restored _ => pending.erase volume
  | broken _ _ => pending.insert volume ()

/-- Whether the volume is as full as the destinations can make it. -/
def Settles : Filling → Prop
  | nothingFound | restored _ => True
  | unfilled | broken _ _ => False

/-- Whether filling was begun and failed. -/
def Breaks : Filling → Prop
  | broken _ _ => True
  | unfilled | nothingFound | restored _ => False

end Filling

/-- How far a publish came: it was refused, its volume could not be made present, its volume was
already mounted at the target, or its volume was present and not mounted there. -/
inductive Progress where
  | refused
  | absent
  | alreadyMounted (presence : Pool.Presence)
  | presented (presence : Pool.Presence) (filling : Filling)

namespace Agent

open Operation

variable {settings : Settings} {now : Instant} {volume : String} {target : Path}
  {capacity : Option Int} {agent after : Agent} {exchanges : List (Exchange backends)}

/-! ### States -/

/-- The agent while it has the lock of a volume. -/
def locked (agent : Agent) (volume : String) : Agent :=
  { agent with locks := agent.locks.insert volume () }

/-- The agent without a lock of a volume. -/
def unlocked (agent : Agent) (volume : String) : Agent :=
  { agent with locks := agent.locks.erase volume }

/-- The agent after a step on a volume that left it with this phase. -/
def moved (agent : Agent) (volume : String) (phase : Phase) (roster : Roster)
    (pending : Table Unit) : Agent :=
  { agent with roster, phases := agent.phases.insert volume phase, pending }

@[simp] theorem moved_moved (agent : Agent) (volume : String) (first second : Phase)
    (firstRoster secondRoster : Roster) (firstPending secondPending : Table Unit) :
    (agent.moved volume first firstRoster firstPending).moved volume second secondRoster
        secondPending =
      agent.moved volume second secondRoster secondPending := by
  unfold moved
  rw [Table.insert_insert]

/-- The agent after an operation on a volume, whose failure it records. -/
def recorded {Result : Type} (agent : Agent) (volume : String) : Except Failure Result → Agent
  | .ok _ => agent
  | .error _ => { agent with phases := agent.phases.insert volume .failed }

@[simp] theorem recorded_ok {Result : Type} (agent : Agent) (volume : String) (result : Result) :
    agent.recorded volume (.ok result : Except Failure Result) = agent := rfl

@[simp] theorem recorded_moved {Result : Type} (agent : Agent) (volume : String) (phase : Phase)
    (roster : Roster) (pending : Table Unit) (failure : Failure) :
    (agent.moved volume phase roster pending).recorded volume
        (.error failure : Except Failure Result) =
      agent.moved volume .failed roster pending :=
  moved_moved agent volume phase .failed roster roster pending pending

/-- The size a volume is published with. -/
def sizeFor (settings : Settings) (capacity : Option Int) : Size :=
  (capacity.map Size.mk).getD settings.defaultSize

/-- What is checked of a publish before anything is done. -/
def checkPublish (settings : Settings) (volume : String) (target : Path)
    (capacity : Option Int) : Except Failure Unit := do
  checkVolumeId volume
  checkTargetPath target
  if (sizeFor settings capacity).bytes ≤ 0 then
    .error (.invalidRequest s!"requested size must be positive, got {sizeFor settings capacity}")

/-- Whether a publish fills its volume once the volume is present. -/
def fills (agent : Agent) (settings : Settings) (volume : String)
    (presence : Pool.Presence) : Bool :=
  presence.created || agent.pending.contains volume || settings.policy = .always

/-! ### Courses -/

/-- How filling a volume can go, where it is due or not. -/
inductive Fills (settings : Settings) (now : Instant) (volume : String) (before : Roster) :
    Bool → List (Exchange backends) → Filling → Roster → Prop where
  | unfilled : Fills settings now volume before false [] .unfilled before
  | nothingFound {asking}
      (selected : Dialogue.Held (Selection.select volume settings.destinations now) asking none) :
      Fills settings now volume before true asking .nothingFound before
  | restored {asking restoring source roster}
      (selected :
        Dialogue.Held (Selection.select volume settings.destinations now) asking (some source))
      (restoration : Converses (Restore.restore settings.pool volume source
        (settings.volumePoint volume) (settings.snapshotPoint volume)) before restoring (.ok ())
        roster) :
      Fills settings now volume before true (asking ++ restoring) (.restored source) roster
  | broken {asking restoring source failure roster}
      (selected :
        Dialogue.Held (Selection.select volume settings.destinations now) asking (some source))
      (restoration : Converses (Restore.restore settings.pool volume source
        (settings.volumePoint volume) (settings.snapshotPoint volume)) before restoring
        (.error failure) roster) :
      Fills settings now volume before true (asking ++ restoring) (.broken source failure) roster

/-- How a publish can go. -/
inductive Publishes (settings : Settings) (now : Instant) (volume : String) (target : Path)
    (capacity : Option Int) (agent : Agent) :
    List (Exchange backends) → Progress → Except Failure Published → Agent → Prop where
  | refused {failure} (invalid : checkPublish settings volume target capacity = .error failure) :
      Publishes settings now volume target capacity agent [] .refused (.error failure) agent
  | absent {presenting failure roster}
      (valid : checkPublish settings volume target capacity = .ok ())
      (lacking : Converses (Pool.ensurePresent settings.pool volume (sizeFor settings capacity))
        agent.roster presenting (.error failure) roster) :
      Publishes settings now volume target capacity agent presenting .absent (.error failure)
        ((agent.locked volume).moved volume .failed roster agent.pending)
  | alreadyMounted {presenting presence roster}
      (valid : checkPublish settings volume target capacity = .ok ())
      (present : Converses (Pool.ensurePresent settings.pool volume (sizeFor settings capacity))
        agent.roster presenting (.ok presence) roster)
      (there : presence.volume.isMountedAt target = true) :
      Publishes settings now volume target capacity agent presenting (.alreadyMounted presence)
        (.ok ⟨presence.volume, presence.created, none⟩)
        ((agent.locked volume).moved volume .published roster agent.pending)
  | broken {presenting presence roster filling how failure last}
      (valid : checkPublish settings volume target capacity = .ok ())
      (present : Converses (Pool.ensurePresent settings.pool volume (sizeFor settings capacity))
        agent.roster presenting (.ok presence) roster)
      (notThere : presence.volume.isMountedAt target = false)
      (filled : Fills settings now volume roster (agent.fills settings volume presence) filling how
        last)
      (failed : how.outcome = .error failure) :
      Publishes settings now volume target capacity agent (presenting ++ filling)
        (.presented presence how) (.error failure)
        ((agent.locked volume).moved volume .failed last (how.mark volume agent.pending))
  | unmounted {presenting presence roster filling how source middle mounting failure last}
      (valid : checkPublish settings volume target capacity = .ok ())
      (present : Converses (Pool.ensurePresent settings.pool volume (sizeFor settings capacity))
        agent.roster presenting (.ok presence) roster)
      (notThere : presence.volume.isMountedAt target = false)
      (filled : Fills settings now volume roster (agent.fills settings volume presence) filling how
        middle)
      (settled : how.outcome = .ok source)
      (unmounted : Converses (Pool.ensureMounted settings.pool volume target) middle mounting
        (.error failure) last) :
      Publishes settings now volume target capacity agent (presenting ++ filling ++ mounting)
        (.presented presence how) (.error failure)
        ((agent.locked volume).moved volume .failed last (how.mark volume agent.pending))
  | mounted {presenting presence roster filling how source middle mounting found last}
      (valid : checkPublish settings volume target capacity = .ok ())
      (present : Converses (Pool.ensurePresent settings.pool volume (sizeFor settings capacity))
        agent.roster presenting (.ok presence) roster)
      (notThere : presence.volume.isMountedAt target = false)
      (filled : Fills settings now volume roster (agent.fills settings volume presence) filling how
        middle)
      (settled : how.outcome = .ok source)
      (mounted : Converses (Pool.ensureMounted settings.pool volume target) middle mounting
        (.ok found) last) :
      Publishes settings now volume target capacity agent (presenting ++ filling ++ mounting)
        (.presented presence how) (.ok ⟨found, presence.created, source⟩)
        ((agent.locked volume).moved volume .published last (how.mark volume agent.pending))

/-! ### Steps of the agent -/

theorem converses_onPool_iff {Result : Type} {operation : Operation Roster Result}
    {outcome : Except Failure Result} {phase : Phase} {before : Roster} {pending : Table Unit} :
    Converses (onPool operation) (agent.moved volume phase before pending) exchanges outcome
        after ↔
      ∃ roster, Converses operation before exchanges outcome roster ∧
        after = agent.moved volume phase roster pending :=
  converses_within_iff

theorem converses_onPool_bind_iff {Result Later : Type} {operation : Operation Roster Result}
    {next : Result → Operation Agent Later} {last : Except Failure Later} {phase : Phase}
    {before : Roster} {pending : Table Unit} :
    Converses (onPool operation >>= next) (agent.moved volume phase before pending) exchanges last
        after ↔
      (∃ first second result roster, exchanges = first ++ second ∧
        Converses operation before first (.ok result) roster ∧
        Converses (next result) (agent.moved volume phase roster pending) second last after) ∨
      ∃ failure roster, last = .error failure ∧
        Converses operation before exchanges (.error failure) roster ∧
        after = agent.moved volume phase roster pending := by
  rw [converses_bind_iff]
  constructor
  · rintro (⟨first, second, result, middle, rfl, pooled, rest⟩ | ⟨failure, rfl, pooled⟩)
    · obtain ⟨roster, held, rfl⟩ := converses_onPool_iff.1 pooled
      exact Or.inl ⟨first, second, result, roster, rfl, held, rest⟩
    · obtain ⟨roster, held, rfl⟩ := converses_onPool_iff.1 pooled
      exact Or.inr ⟨failure, roster, rfl, held, rfl⟩
  · rintro (⟨first, second, result, roster, rfl, held, rest⟩ | ⟨failure, roster, rfl, held, rfl⟩)
    · exact Or.inl ⟨first, second, result, _, rfl, converses_onPool_iff.2 ⟨roster, held, rfl⟩, rest⟩
    · exact Or.inr ⟨failure, rfl, converses_onPool_iff.2 ⟨roster, held, rfl⟩⟩

/-- The first step of an operation on a volume sets its phase. -/
theorem converses_begin_iff {Later : Type} {phase : Phase} {next : PUnit → Operation Agent Later}
    {last : Except Failure Later} :
    Converses (setPhase volume phase >>= next) agent exchanges last after ↔
      Converses (next ⟨⟩) (agent.moved volume phase agent.roster agent.pending) exchanges last
        after := Iff.rfl

theorem converses_takeLock_bind_iff {Later : Type} {next : PUnit → Operation Agent Later}
    {last : Except Failure Later} :
    Converses (takeLock volume >>= next) agent exchanges last after ↔
      Converses (next ⟨⟩) (agent.locked volume) exchanges last after := Iff.rfl

theorem converses_setPhase_bind_iff {Later : Type} {phase new : Phase} {roster : Roster}
    {pending : Table Unit} {next : PUnit → Operation Agent Later}
    {last : Except Failure Later} :
    Converses (setPhase volume new >>= next) (agent.moved volume phase roster pending) exchanges
        last after ↔
      Converses (next ⟨⟩) (agent.moved volume new roster pending) exchanges last after := by
  rw [converses_begin_iff, moved_moved]
  rfl

theorem converses_clearPending_bind_iff {Later : Type} {phase : Phase} {roster : Roster}
    {pending : Table Unit} {next : PUnit → Operation Agent Later}
    {last : Except Failure Later} :
    Converses (clearPending volume >>= next) (agent.moved volume phase roster pending) exchanges
        last after ↔
      Converses (next ⟨⟩) (agent.moved volume phase roster (pending.erase volume)) exchanges last
        after := Iff.rfl

theorem converses_markPending_bind_iff {Later : Type} {phase : Phase} {roster : Roster}
    {pending : Table Unit} {next : PUnit → Operation Agent Later}
    {last : Except Failure Later} :
    Converses (markPending volume >>= next) (agent.moved volume phase roster pending) exchanges
        last after ↔
      Converses (next ⟨⟩) (agent.moved volume phase roster (pending.insert volume ())) exchanges
        last after := Iff.rfl

theorem converses_recordingFailure_iff {Result : Type} {operation : Operation Agent Result}
    {outcome : Except Failure Result} :
    Converses (recordingFailure volume operation) agent exchanges outcome after ↔
      ∃ middle, Converses operation agent exchanges outcome middle ∧
        after = middle.recorded volume outcome := by
  unfold recordingFailure
  rw [converses_attempt_bind_iff]
  constructor
  · rintro ⟨first, second, ended, middle, rfl, held, rest⟩
    cases ended with
    | ok result =>
      obtain ⟨rfl, rfl, rfl⟩ := converses_pure_iff.1 rest
      exact ⟨after, by rwa [List.append_nil], rfl⟩
    | error failure =>
      rw [converses_begin_iff] at rest
      obtain ⟨rfl, rfl, rfl⟩ := converses_throw_iff.1 rest
      exact ⟨middle, by rwa [List.append_nil], rfl⟩
  · rintro ⟨middle, held, rfl⟩
    refine ⟨exchanges, [], outcome, middle, (List.append_nil _).symm, held, ?_⟩
    cases outcome with
    | ok result => exact .done _
    | error failure => exact .done _

/-! ### Filling -/

theorem converses_fill_iff {phase : Phase} {roster : Roster} {pending : Table Unit}
    {outcome : Except Failure (Option Source)} :
    Converses (fill settings now volume) (agent.moved volume phase roster pending) exchanges outcome
        after ↔
      ∃ how last, Fills settings now volume roster true exchanges how last ∧
        outcome = how.outcome ∧
        after = agent.moved volume how.phase last (how.mark volume pending) := by
  unfold fill
  rw [converses_setPhase_bind_iff, converses_ofDialogue_bind_iff]
  constructor
  · rintro ⟨asking, rest, found, rfl, selected, decided⟩
    cases found with
    | none =>
      rw [converses_clearPending_bind_iff] at decided
      obtain ⟨rfl, rfl, rfl⟩ := converses_pure_iff.1 decided
      rw [List.append_nil]
      exact ⟨.nothingFound, _, .nothingFound selected, rfl, rfl⟩
    | some source =>
      rw [converses_setPhase_bind_iff, converses_attempt_bind_iff] at decided
      obtain ⟨restoring, ending, ended, middle, rfl, restoration, decided⟩ := decided
      obtain ⟨last, restored, rfl⟩ := converses_onPool_iff.1 restoration
      cases ended with
      | ok _ =>
        rw [converses_clearPending_bind_iff] at decided
        obtain ⟨rfl, rfl, rfl⟩ := converses_pure_iff.1 decided
        rw [List.append_nil]
        exact ⟨.restored source, last, .restored selected restored, rfl, rfl⟩
      | error failure =>
        rw [converses_markPending_bind_iff] at decided
        obtain ⟨rfl, rfl, rfl⟩ := converses_throw_iff.1 decided
        rw [List.append_nil]
        exact ⟨.broken source failure, last, .broken selected restored, rfl, rfl⟩
  · rintro ⟨how, last, filled, rfl, rfl⟩
    cases filled with
    | nothingFound selected =>
      exact ⟨exchanges, [], none, (List.append_nil _).symm, selected, .done _⟩
    | restored selected restoration =>
      refine ⟨_, _, _, rfl, selected, converses_setPhase_bind_iff.2 ?_⟩
      exact converses_attempt_bind_iff.2 ⟨_, [], .ok (), _, (List.append_nil _).symm,
        converses_onPool_iff.2 ⟨last, restoration, rfl⟩, .done _⟩
    | broken selected restoration =>
      refine ⟨_, _, _, rfl, selected, converses_setPhase_bind_iff.2 ?_⟩
      exact converses_attempt_bind_iff.2 ⟨_, [], .error _, _, (List.append_nil _).symm,
        converses_onPool_iff.2 ⟨last, restoration, rfl⟩, .done _⟩

/-- Fills a volume where that is due. -/
def fillWhere (settings : Settings) (now : Instant) (volume : String) (due : Bool) :
    Operation Agent (Option Source) :=
  if due then fill settings now volume else pure none

theorem converses_fillWhere_iff {roster : Roster} {pending : Table Unit} {due : Bool}
    {outcome : Except Failure (Option Source)} :
    Converses (fillWhere settings now volume due)
        (agent.moved volume .presenting roster pending) exchanges outcome after ↔
      ∃ how last, Fills settings now volume roster due exchanges how last ∧
        outcome = how.outcome ∧
        after = agent.moved volume how.phase last (how.mark volume pending) := by
  cases due with
  | true => exact converses_fill_iff
  | false =>
    refine converses_pure_iff.trans ?_
    constructor
    · rintro ⟨rfl, rfl, rfl⟩
      exact ⟨.unfilled, roster, .unfilled, rfl, rfl⟩
    · rintro ⟨how, last, filled, rfl, rfl⟩
      cases filled with
      | unfilled => exact ⟨rfl, rfl, rfl⟩

/-! ### Publishing -/

/-- Publishing checks the request first and then works under the lock. -/
theorem publish_eq (settings : Settings) (now : Instant) (volume : String) (target : Path)
    (capacity : Option Int) :
    publish settings now volume target capacity = (do
      fromResult (checkPublish settings volume target capacity)
      takeLock volume
      recordingFailure volume
        (publishLocked settings now volume target (sizeFor settings capacity))) := by
  unfold publish checkPublish
  cases checkVolumeId volume with
  | error failure => rfl
  | ok _ =>
    cases checkTargetPath target with
    | error failure => rfl
    | ok _ =>
      simp only [sizeFor]
      by_cases nonpositive : ((capacity.map Size.mk).getD settings.defaultSize).bytes ≤ 0
      · simp only [nonpositive, if_true]
        rfl
      · simp only [nonpositive, if_false]
        rfl

/-- Mounts a volume that was filled where that was due. -/
def finish (settings : Settings) (volume : String) (target : Path) (presence : Pool.Presence)
    (source : Option Source) : Operation Agent Published := do
  setPhase volume .finalMounting
  let mounted ← onPool (Pool.ensureMounted settings.pool volume target)
  setPhase volume .published
  return ⟨mounted, presence.created, source⟩

theorem publishLocked_eq (settings : Settings) (now : Instant) (volume : String) (target : Path)
    (size : Size) :
    publishLocked settings now volume target size = (do
      setPhase volume .presenting
      let presence ← onPool (Pool.ensurePresent settings.pool volume size)
      if presence.volume.isMountedAt target then
        setPhase volume .published
        return ⟨presence.volume, presence.created, none⟩
      else
        let agent ← get
        let source ← fillWhere settings now volume (agent.fills settings volume presence)
        finish settings volume target presence source) := by
  unfold publishLocked
  refine bind_congr fun _ => bind_congr fun presence => ?_
  by_cases there : presence.volume.isMountedAt target = true
  · rw [if_pos there, if_pos there]
  · rw [if_neg there, if_neg there]
    refine bind_congr fun agent => ?_
    unfold fillWhere fills
    dsimp only
    split
    · rfl
    · rfl

theorem converses_finish_iff {phase : Phase} {roster : Roster} {pending : Table Unit}
    {presence : Pool.Presence} {source : Option Source} {outcome : Except Failure Published} :
    Converses (finish settings volume target presence source)
        (agent.moved volume phase roster pending) exchanges outcome after ↔
      (∃ found last, Converses (Pool.ensureMounted settings.pool volume target) roster exchanges
          (.ok found) last ∧
        outcome = .ok ⟨found, presence.created, source⟩ ∧
        after = agent.moved volume .published last pending) ∨
      ∃ failure last, Converses (Pool.ensureMounted settings.pool volume target) roster exchanges
          (.error failure) last ∧
        outcome = .error failure ∧ after = agent.moved volume .finalMounting last pending := by
  unfold finish
  rw [converses_setPhase_bind_iff, converses_onPool_bind_iff]
  constructor
  · rintro (⟨mounting, rest, found, last, rfl, mounted, ended⟩ |
      ⟨failure, last, rfl, unmounted, rfl⟩)
    · rw [converses_setPhase_bind_iff] at ended
      obtain ⟨rfl, rfl, rfl⟩ := converses_pure_iff.1 ended
      rw [List.append_nil]
      exact Or.inl ⟨found, last, mounted, rfl, rfl⟩
    · exact Or.inr ⟨failure, last, unmounted, rfl, rfl⟩
  · rintro (⟨found, last, mounted, rfl, rfl⟩ | ⟨failure, last, unmounted, rfl, rfl⟩)
    · refine Or.inl ⟨exchanges, [], found, last, (List.append_nil _).symm, mounted, ?_⟩
      exact converses_setPhase_bind_iff.2 (.done _)
    · exact Or.inr ⟨failure, last, rfl, unmounted, rfl⟩

theorem converses_publish_iff_of_valid {outcome : Except Failure Published}
    (valid : checkPublish settings volume target capacity = .ok ()) :
    Converses (publish settings now volume target capacity) agent exchanges outcome after ↔
      ∃ middle, Converses
          (publishLocked settings now volume target (sizeFor settings capacity))
          (agent.locked volume) exchanges outcome middle ∧
        after = middle.recorded volume outcome := by
  rw [publish_eq, valid]
  exact converses_recordingFailure_iff

/-- A publish whose volume is present and not mounted at the target fills it where that is due and
goes on with the final mount. -/
theorem converses_publishLocked_of_presented {presenting filling rest : List (Exchange backends)}
    {presence : Pool.Presence} {roster last : Roster} {how : Filling} {source : Option Source}
    {size : Size} {outcome : Except Failure Published}
    (present : Converses (Pool.ensurePresent settings.pool volume size) agent.roster presenting
      (.ok presence) roster)
    (notThere : presence.volume.isMountedAt target = false)
    (filled : Fills settings now volume roster (agent.fills settings volume presence) filling how
      last)
    (settled : how.outcome = .ok source)
    (finished : Converses (finish settings volume target presence source)
      (agent.moved volume how.phase last (how.mark volume agent.pending)) rest outcome after) :
    Converses (publishLocked settings now volume target size) agent (presenting ++ filling ++ rest)
      outcome after := by
  rw [publishLocked_eq, List.append_assoc]
  refine converses_onPool_bind_iff.2 (Or.inl ⟨_, _, _, _, rfl, present, ?_⟩)
  rw [if_neg (Bool.eq_false_iff.1 notThere)]
  refine converses_get_bind_iff.2 (converses_bind_iff.2 (Or.inl ⟨_, _, _, _, rfl, ?_, finished⟩))
  exact converses_fillWhere_iff.2 ⟨how, last, filled, settled.symm, rfl⟩

/-- Every conversation of a publish takes a course. -/
theorem publishes_of_converses {outcome : Except Failure Published}
    (conversation : Converses (publish settings now volume target capacity) agent exchanges outcome
      after) :
    ∃ progress,
      Publishes settings now volume target capacity agent exchanges progress outcome after := by
  generalize valid : checkPublish settings volume target capacity = check
  cases check with
  | error failure =>
    rw [publish_eq, valid, converses_fromResult_error_bind_iff] at conversation
    obtain ⟨rfl, rfl, rfl⟩ := conversation
    exact ⟨_, .refused valid⟩
  | ok _ =>
    obtain ⟨middle, course, rfl⟩ := (converses_publish_iff_of_valid valid).1 conversation
    rw [publishLocked_eq, converses_begin_iff, converses_onPool_bind_iff] at course
    rcases course with
      ⟨presenting, rest, presence, roster, rfl, present, decided⟩ |
      ⟨failure, roster, rfl, lacking, rfl⟩
    · by_cases there : presence.volume.isMountedAt target = true
      · rw [if_pos there, converses_setPhase_bind_iff] at decided
        obtain ⟨rfl, rfl, rfl⟩ := converses_pure_iff.1 decided
        rw [List.append_nil]
        exact ⟨_, .alreadyMounted valid present there⟩
      · rw [if_neg there, converses_get_bind_iff] at decided
        rw [Bool.not_eq_true] at there
        rcases converses_bind_iff.1 decided with
          ⟨filling, mounting, source, middle, rfl, seeding, finished⟩ | ⟨failure, rfl, seeding⟩
        · obtain ⟨how, last, filled, settled, rfl⟩ := converses_fillWhere_iff.1 seeding
          rcases converses_finish_iff.1 finished with
            ⟨found, last, mounted, rfl, rfl⟩ | ⟨failure, last, unmounted, rfl, rfl⟩
          · rw [← List.append_assoc]
            exact ⟨_, .mounted valid present there filled settled.symm mounted⟩
          · rw [← List.append_assoc, recorded_moved]
            exact ⟨_, .unmounted valid present there filled settled.symm unmounted⟩
        · obtain ⟨how, last, filled, failed, rfl⟩ := converses_fillWhere_iff.1 seeding
          rw [recorded_moved]
          exact ⟨_, .broken valid present there filled failed.symm⟩
    · rw [recorded_moved]
      exact ⟨_, .absent valid lacking⟩

/-- Every course of a publish is one of a conversation. -/
theorem converses_of_publishes {progress : Progress} {outcome : Except Failure Published}
    (course : Publishes settings now volume target capacity agent exchanges progress outcome
      after) :
    Converses (publish settings now volume target capacity) agent exchanges outcome after := by
  cases course with
  | refused invalid =>
    rw [publish_eq, invalid]
    exact .done _
  | @absent _ _ roster valid lacking =>
    refine (converses_publish_iff_of_valid valid).2
      ⟨(agent.locked volume).moved volume .presenting roster agent.pending, ?_,
        (recorded_moved ..).symm⟩
    rw [publishLocked_eq]
    exact converses_onPool_bind_iff.2 (Or.inr ⟨_, roster, rfl, lacking, rfl⟩)
  | alreadyMounted valid present there =>
    refine (converses_publish_iff_of_valid valid).2 ⟨_, ?_, rfl⟩
    rw [publishLocked_eq]
    refine converses_onPool_bind_iff.2 (Or.inl ⟨_, [], _, _, (List.append_nil _).symm, present, ?_⟩)
    rw [if_pos there]
    exact converses_setPhase_bind_iff.2 (.done _)
  | @broken _ _ _ _ how _ last valid present notThere filled failed =>
    refine (converses_publish_iff_of_valid valid).2
      ⟨(agent.locked volume).moved volume how.phase last (how.mark volume agent.pending), ?_,
        (recorded_moved ..).symm⟩
    rw [publishLocked_eq]
    refine converses_onPool_bind_iff.2 (Or.inl ⟨_, _, _, _, rfl, present, ?_⟩)
    rw [if_neg (Bool.eq_false_iff.1 notThere)]
    refine converses_get_bind_iff.2 (converses_bind_iff.2 (Or.inr ⟨_, rfl, ?_⟩))
    exact converses_fillWhere_iff.2 ⟨how, last, filled, failed.symm, rfl⟩
  | @unmounted _ _ _ _ how _ _ _ _ last valid present notThere filled settled unmounted =>
    refine (converses_publish_iff_of_valid valid).2
      ⟨(agent.locked volume).moved volume .finalMounting last (how.mark volume agent.pending), ?_,
        (recorded_moved ..).symm⟩
    exact converses_publishLocked_of_presented present notThere filled settled
      (converses_finish_iff.2 (Or.inr ⟨_, _, unmounted, rfl, rfl⟩))
  | mounted valid present notThere filled settled mounted =>
    refine (converses_publish_iff_of_valid valid).2 ⟨_, ?_, rfl⟩
    exact converses_publishLocked_of_presented present notThere filled settled
      (converses_finish_iff.2 (Or.inl ⟨_, _, mounted, rfl, rfl⟩))

/-- The conversations of a publish are those that its courses have. -/
theorem converses_publish_iff {outcome : Except Failure Published} :
    Converses (publish settings now volume target capacity) agent exchanges outcome after ↔
      ∃ progress,
        Publishes settings now volume target capacity agent exchanges progress outcome after :=
  ⟨publishes_of_converses, fun ⟨_, course⟩ => converses_of_publishes course⟩

/-- A publish that is refused does nothing. -/
theorem Publishes.of_refused {progress : Progress} {outcome : Except Failure Published}
    {failure : Failure}
    (course : Publishes settings now volume target capacity agent exchanges progress outcome
      after)
    (invalid : checkPublish settings volume target capacity = .error failure) :
    exchanges = [] ∧ outcome = .error failure ∧ after = agent := by
  cases course with
  | refused refusal =>
    rw [refusal] at invalid
    cases invalid
    exact ⟨rfl, rfl, rfl⟩
  | absent valid | alreadyMounted valid | broken valid | unmounted valid | mounted valid =>
    rw [valid] at invalid
    cases invalid

/-- A publish whose volume was present was not refused. -/
theorem Publishes.checkPublish_of_presented {presence : Pool.Presence} {how : Filling}
    {outcome : Except Failure Published}
    (course : Publishes settings now volume target capacity agent exchanges
      (.presented presence how) outcome after) :
    checkPublish settings volume target capacity = .ok () := by
  cases course with
  | broken valid | unmounted valid | mounted valid => exact valid

theorem checkVolumeId_of_checkPublish
    (valid : checkPublish settings volume target capacity = .ok ()) :
    checkVolumeId volume = .ok () := by
  unfold checkPublish at valid
  cases checked : checkVolumeId volume with
  | ok _ => rfl
  | error failure =>
    rw [checked] at valid
    cases valid

end Agent

end NodeAgent
