/-
This file writes the work on a volume down step by step, for the case that several calls are at work
at the same time. One step of an errand asks the backends, or looks at what the agent knows and
changes it; between two steps other calls may take any of theirs. An errand that is done alone is
the operation of the agent, so it is the same work cut into its steps.
-/

import NodeAgent.Proofs.Requests

namespace NodeAgent

/-! ### Steps -/

/-- One step of a call that works on a volume. -/
inductive Act where
  | ask (call : Call)
  | visit (change : Agent → Agent)

/-- What a step learns: an answer, or what the agent knew before it was changed. -/
def Act.Answer : Act → Type
  | ask call => call.Answer
  | visit _ => Agent

/-- The steps of calls that share one agent. -/
def steps : Interface := ⟨Act, Act.Answer⟩

/-- Work that is done in steps. -/
abbrev Errand (Result : Type) := ExceptT Failure (Dialogue steps) Result

/-- Takes all steps from a state of the agent on, without any other call in between. -/
def Dialogue.alone {Result : Type} : Dialogue steps Result → Agent →
    Dialogue backends (Result × Agent)
  | .done result, agent => .done (result, agent)
  | .ask (.ask call) next, agent =>
    @Dialogue.ask backends _ call fun answer => (next answer).alone agent
  | .ask (.visit change) next, agent => (next agent).alone (change agent)

/-- The steps of a dialogue with the backends. -/
def Dialogue.asking {Result : Type} : Dialogue backends Result → Dialogue steps Result
  | .done result => .done result
  | .ask call next => @Dialogue.ask steps _ (.ask call) fun answer => (next answer).asking

namespace Errand

variable {Result Later : Type}

/-- An errand that is done alone, as an operation of the agent. -/
def alone (errand : Errand Result) : Operation Agent Result :=
  ExceptT.mk fun agent => Dialogue.alone errand.run agent

/-- Looks at what the agent knows. -/
def look : Errand Agent :=
  ExceptT.mk (@Dialogue.ask steps _ (.visit id) fun agent => .done (.ok agent))

/-- Changes what the agent knows. -/
def change (update : Agent → Agent) : Errand Unit :=
  ExceptT.mk (@Dialogue.ask steps _ (.visit update) fun _ => .done (.ok ()))

/-- A dialogue with the backends as an errand that cannot fail. -/
def ofDialogue (dialogue : Dialogue backends Result) : Errand Result :=
  ExceptT.mk (dialogue.asking >>= fun result => .done (.ok result))

/-- Carries out an errand and looks at its result, whatever it is. -/
def attempt (errand : Errand Result) : Errand (Except Failure Result) :=
  ExceptT.mk (errand.run >>= fun outcome => .done (.ok outcome))

/-- An operation on the pool: it begins with the roster that is found and leaves its own. It goes by
its own listings, so what other calls do to the roster in between does not matter to it. -/
def onPool (operation : Operation Roster Result) : Errand Result := do
  let agent ← look
  let (outcome, roster) ← ofDialogue (operation.run agent.roster)
  change fun agent => { agent with roster }
  ExceptT.mk (.done outcome)

/-- Records the phase of a volume. -/
def setPhase (volume : String) (phase : Phase) : Errand Unit :=
  change fun agent => { agent with phases := agent.phases.insert volume phase }

/-- Records that a volume still has to be filled. -/
def markPending (volume : String) : Errand Unit :=
  change fun agent => { agent with pending := agent.pending.insert volume () }

/-- Records that a volume is filled, or that there is nothing to fill it from. -/
def clearPending (volume : String) : Errand Unit :=
  change fun agent => { agent with pending := agent.pending.erase volume }

/-- Carries out an errand for a volume and records its failure. -/
def recordingFailure (volume : String) (errand : Errand Result) : Errand Result := do
  match ← attempt errand with
  | .ok result => return result
  | .error failure =>
    setPhase volume .failed
    throw failure

/-! ### Publishing and releasing in steps -/

/-- Fills a volume where that is due. -/
def fillWhere (settings : Settings) (now : Instant) (volume : String) :
    Bool → Errand (Option Source)
  | false => return none
  | true => do
    setPhase volume .selecting
    match ← ofDialogue (Selection.select volume settings.destinations now) with
    | none =>
      clearPending volume
      return none
    | some source =>
      setPhase volume .restoring
      match ← attempt (onPool (Restore.restore settings.pool volume source
          (settings.volumePoint volume) (settings.snapshotPoint volume))) with
      | .ok _ =>
        clearPending volume
        return some source
      | .error failure =>
        markPending volume
        throw failure

/-- Publishes a volume whose lock is held. -/
def publishLocked (settings : Settings) (now : Instant) (volume : String) (target : Path)
    (size : Size) : Errand Published := do
  setPhase volume .presenting
  let presence ← onPool (Pool.ensurePresent settings.pool volume size)
  if presence.volume.isMountedAt target then
    setPhase volume .published
    return ⟨presence.volume, presence.created, none⟩
  else
    let agent ← look
    let source ← fillWhere settings now volume (agent.fills settings volume presence)
    setPhase volume .finalMounting
    let mounted ← onPool (Pool.ensureMounted settings.pool volume target)
    setPhase volume .published
    return ⟨mounted, presence.created, source⟩

/-- Takes a volume that was found away from its target, by way of the backups unless there is a
reason against them. -/
def depart (settings : Settings) (now : Instant) (volume : String) :
    Option String → Errand Released
  | some reason => do
    let _ ← onPool (Pool.ensureUnmounted settings.pool volume)
    setPhase volume .unpublished
    return ⟨⟨.ofInstant now, []⟩, some reason⟩
  | none => do
    let _ ← onPool (Pool.ensureUnmounted settings.pool volume)
    let _ ← onPool (Pool.ensureMounted settings.pool volume (settings.volumePoint volume))
    setPhase volume .backingUp
    let report ← ofDialogue (Backup.backupAll volume (settings.volumePoint volume)
      settings.destinations (.ofInstant now))
    let _ ← onPool (Pool.ensureUnmounted settings.pool volume)
    setPhase volume .unpublished
    return ⟨report, none⟩

/-- Releases a volume whose lock is held. -/
def unpublishLocked (settings : Settings) (now : Instant) (volume : String) : Errand Released := do
  setPhase volume .stagingRemount
  match ← onPool (Pool.find settings.pool volume) with
  | some current =>
    let agent ← look
    depart settings now volume (agent.skipReason? current volume)
  | none => throw (.notFound s!"volume {volume} does not exist")

/-! ### Errands that are done alone -/

theorem alone_bind_dialogue (dialogue : Dialogue steps Result)
    (next : Result → Dialogue steps Later) (agent : Agent) :
    (dialogue >>= next).alone agent =
      dialogue.alone agent >>= fun ended => (next ended.1).alone ended.2 := by
  induction dialogue generalizing agent with
  | done result => rfl
  | ask act rest inductionHypothesis =>
    cases act with
    | ask call =>
      exact congrArg (@Dialogue.ask backends _ call)
        (funext fun answer => inductionHypothesis answer agent)
    | visit update => exact inductionHypothesis agent (update agent)

theorem alone_bind (errand : Errand Result) (next : Result → Errand Later) :
    (errand >>= next).alone = errand.alone >>= fun result => (next result).alone := by
  funext agent
  refine (alone_bind_dialogue errand.run _ agent).trans ?_
  refine bind_congr fun ended => ?_
  obtain ⟨outcome, last⟩ := ended
  cases outcome <;> rfl

theorem alone_setPhase (volume : String) (phase : Phase) :
    (setPhase volume phase).alone = Agent.setPhase volume phase := rfl

theorem alone_asking (dialogue : Dialogue backends Result) (agent : Agent) :
    dialogue.asking.alone agent = dialogue >>= fun result => .done (result, agent) := by
  induction dialogue with
  | done result => rfl
  | ask call rest inductionHypothesis =>
    exact congrArg (@Dialogue.ask backends _ call) (funext inductionHypothesis)

theorem alone_ofDialogue (dialogue : Dialogue backends Result) :
    (ofDialogue dialogue).alone = Operation.ofDialogue dialogue := by
  funext agent
  refine (alone_bind_dialogue dialogue.asking _ agent).trans ?_
  rw [alone_asking, bind_assoc]
  rfl

theorem alone_attempt (errand : Errand Result) :
    (attempt errand).alone = Operation.attempt errand.alone := by
  funext agent
  exact alone_bind_dialogue errand.run _ agent

theorem alone_look : look.alone = (get : Operation Agent Agent) := rfl

theorem run_ofDialogue_bind (dialogue : Dialogue backends Result)
    (next : Result → Operation Agent Later) (agent : Agent) :
    (Operation.ofDialogue dialogue >>= next).run agent =
      dialogue >>= fun result => (next result).run agent :=
  bind_assoc dialogue (fun result => Dialogue.done (Except.ok result, agent)) _

theorem alone_onPool (operation : Operation Roster Result) :
    (onPool operation).alone = Agent.onPool operation := by
  funext agent
  unfold onPool
  rw [alone_bind, alone_look]
  show (alone (ofDialogue (operation.run agent.roster) >>= _)).run agent = _
  rw [alone_bind, alone_ofDialogue, run_ofDialogue_bind]
  refine bind_congr fun ended => ?_
  obtain ⟨outcome, roster⟩ := ended
  rfl

theorem alone_recordingFailure (volume : String) (errand : Errand Result) :
    (recordingFailure volume errand).alone = Agent.recordingFailure volume errand.alone := by
  unfold recordingFailure Agent.recordingFailure
  rw [alone_bind, alone_attempt]
  refine bind_congr fun outcome => ?_
  cases outcome with
  | ok result => rfl
  | error failure => rfl

variable {settings : Settings} {now : Instant} {volume : String} {target : Path}

theorem alone_fillWhere (due : Bool) :
    (fillWhere settings now volume due).alone = Agent.fillWhere settings now volume due := by
  cases due with
  | false => rfl
  | true =>
    unfold fillWhere
    rw [alone_bind, alone_setPhase]
    refine bind_congr fun _ => ?_
    rw [alone_bind, alone_ofDialogue]
    refine bind_congr fun found => ?_
    cases found with
    | none => rfl
    | some source =>
      dsimp only
      rw [alone_bind, alone_setPhase]
      refine bind_congr fun _ => ?_
      rw [alone_bind, alone_attempt, alone_onPool]
      refine bind_congr fun restored => ?_
      cases restored with
      | ok _ => rfl
      | error failure => rfl

/-- Publishing step by step, done alone, is publishing. -/
theorem alone_publishLocked (size : Size) :
    (publishLocked settings now volume target size).alone =
      Agent.publishLocked settings now volume target size := by
  rw [Agent.publishLocked_eq]
  unfold publishLocked
  rw [alone_bind, alone_setPhase]
  refine bind_congr fun _ => ?_
  rw [alone_bind, alone_onPool]
  refine bind_congr fun presence => ?_
  by_cases there : presence.volume.isMountedAt target = true
  · rw [if_pos there, if_pos there]
    rfl
  · rw [if_neg there, if_neg there]
    rw [alone_bind, alone_look]
    refine bind_congr fun agent => ?_
    rw [alone_bind, alone_fillWhere]
    refine bind_congr fun source => ?_
    unfold Agent.finish
    rw [alone_bind, alone_setPhase]
    refine bind_congr fun _ => ?_
    rw [alone_bind, alone_onPool]
    rfl

theorem alone_depart (reason : Option String) :
    (depart settings now volume reason).alone = Agent.depart settings now volume reason := by
  cases reason with
  | some reason =>
    unfold depart Agent.depart
    dsimp only
    rw [alone_bind, alone_onPool]
    rfl
  | none =>
    unfold depart Agent.depart
    dsimp only
    rw [alone_bind, alone_onPool]
    refine bind_congr fun _ => ?_
    rw [alone_bind, alone_onPool]
    refine bind_congr fun _ => ?_
    rw [alone_bind, alone_setPhase]
    refine bind_congr fun _ => ?_
    rw [alone_bind, alone_ofDialogue]
    refine bind_congr fun report => ?_
    rw [alone_bind, alone_onPool]
    rfl

/-- Releasing step by step, done alone, is releasing. -/
theorem alone_unpublishLocked :
    (unpublishLocked settings now volume).alone = Agent.unpublishLocked settings now volume := by
  rw [Agent.unpublishLocked_eq]
  unfold unpublishLocked
  rw [alone_bind, alone_setPhase]
  refine bind_congr fun _ => ?_
  rw [alone_bind, alone_onPool]
  refine bind_congr fun found => ?_
  cases found with
  | none => rfl
  | some current =>
    dsimp only
    rw [alone_bind, alone_look]
    refine bind_congr fun agent => ?_
    rw [alone_depart]

end Errand

/-! ### What an errand does to the phases -/

/-- A change of what is known of one volume: the locks stay and so do the phases of the others. -/
structure Agent.ChangesOnly (volume : String) (change : Agent → Agent) : Prop where
  locks : ∀ agent, (change agent).locks = agent.locks
  phase : ∀ agent, ∀ other ≠ volume, (change agent).phase other = agent.phase other

/-- The steps change only what is known of one volume, and they end in an allowed phase of it. They
begin in a given phase, which nobody else changes meanwhile. -/
def Dialogue.EndsIn (volume : String) (allowed : Phase → Prop) {Result : Type} :
    Phase → Dialogue steps Result → Prop
  | phase, .done _ => allowed phase
  | phase, .ask (.ask _) next => ∀ answer, (next answer).EndsIn volume allowed phase
  | phase, .ask (.visit change) next => Agent.ChangesOnly volume change ∧
      ∀ agent : Agent, agent.phase volume = phase →
        (next agent).EndsIn volume allowed ((change agent).phase volume)

theorem Dialogue.EndsIn.bind {volume : String} {early allowed : Phase → Prop} {Result Later : Type}
    {dialogue : Dialogue steps Result} {next : Result → Dialogue steps Later} {phase : Phase}
    (ends : dialogue.EndsIn volume early phase)
    (further : ∀ result phase, early phase → (next result).EndsIn volume allowed phase) :
    (dialogue >>= next).EndsIn volume allowed phase := by
  induction dialogue generalizing phase with
  | done result => exact further result phase ends
  | ask act rest inductionHypothesis =>
    cases act with
    | ask call => exact fun answer => inductionHypothesis answer (ends answer)
    | visit change =>
      exact ⟨ends.1, fun agent here => inductionHypothesis agent (ends.2 agent here)⟩

namespace Errand

variable {Result Later : Type} {volume : String} {allowed : Phase → Prop}

/-- From an allowed phase an errand ends in an allowed phase, whatever comes of it. -/
def Keeps (volume : String) (allowed : Phase → Prop) (errand : Errand Result) : Prop :=
  ∀ phase, allowed phase → errand.run.EndsIn volume allowed phase

theorem endsIn_bind {errand : Errand Result} {next : Result → Errand Later} {phase : Phase}
    (first : errand.run.EndsIn volume allowed phase)
    (second : ∀ result, (next result).Keeps volume allowed) :
    (errand >>= next).run.EndsIn volume allowed phase := by
  refine first.bind fun outcome later here => ?_
  cases outcome with
  | ok result => exact second result later here
  | error failure => exact here

theorem keeps_bind {errand : Errand Result} {next : Result → Errand Later}
    (first : errand.Keeps volume allowed) (second : ∀ result, (next result).Keeps volume allowed) :
    (errand >>= next).Keeps volume allowed :=
  fun phase here => endsIn_bind (first phase here) second

theorem keeps_result (outcome : Except Failure Result) :
    Keeps volume allowed (ExceptT.mk (.done outcome) : Errand Result) :=
  fun _ here => here

theorem keeps_pure (result : Result) : (pure result : Errand Result).Keeps volume allowed :=
  keeps_result (.ok result)

theorem keeps_throw (failure : Failure) :
    (throw failure : Errand Result).Keeps volume allowed :=
  keeps_result (.error failure)

theorem keeps_attempt {errand : Errand Result} (keeps : errand.Keeps volume allowed) :
    (attempt errand).Keeps volume allowed :=
  fun phase here => (keeps phase here).bind fun _ _ allowedLater => allowedLater

theorem keeps_change {update : Agent → Agent} (only : Agent.ChangesOnly volume update)
    (same : ∀ agent, (update agent).phase volume = agent.phase volume) :
    (change update).Keeps volume allowed := by
  intro phase here
  refine ⟨only, fun agent found => ?_⟩
  show allowed ((update agent).phase volume)
  rw [same, found]
  exact here

/-- Setting the phase begins anew, whatever the phase was. -/
theorem endsIn_setPhase {new : Phase} (fits : allowed new) (phase : Phase) :
    (setPhase volume new).run.EndsIn volume allowed phase := by
  refine ⟨⟨fun _ => rfl, fun agent other different => ?_⟩, fun agent _ => ?_⟩
  · exact congrArg (Option.getD · Phase.idle) (Table.get?_insert_other _ _ different)
  · have set := Agent.phase_moved agent volume new agent.roster agent.pending
    show allowed ((agent.moved volume new agent.roster agent.pending).phase volume)
    rw [set]
    exact fits

theorem keeps_setPhase {new : Phase} (fits : allowed new) :
    (setPhase volume new).Keeps volume allowed :=
  fun phase _ => endsIn_setPhase fits phase

theorem keeps_markPending : (markPending volume).Keeps volume allowed :=
  keeps_change ⟨fun _ => rfl, fun _ _ _ => rfl⟩ fun _ => rfl

theorem keeps_clearPending : (clearPending volume).Keeps volume allowed :=
  keeps_change ⟨fun _ => rfl, fun _ _ _ => rfl⟩ fun _ => rfl

theorem keeps_look : look.Keeps volume allowed :=
  fun _ here => ⟨⟨fun _ => rfl, fun _ _ _ => rfl⟩, fun _ found => found ▸ here⟩

theorem keeps_ofDialogue (dialogue : Dialogue backends Result) :
    (ofDialogue dialogue).Keeps volume allowed := by
  intro phase here
  show (dialogue.asking >>= fun result => .done (Except.ok result)).EndsIn volume allowed phase
  induction dialogue with
  | done result => exact here
  | ask call rest inductionHypothesis => exact inductionHypothesis

theorem keeps_onPool (operation : Operation Roster Result) :
    (onPool operation).Keeps volume allowed := by
  refine keeps_bind keeps_look fun agent => ?_
  refine keeps_bind (keeps_ofDialogue _) fun ended => ?_
  refine keeps_bind ?_ fun _ => keeps_result ended.1
  exact keeps_change ⟨fun _ => rfl, fun _ _ _ => rfl⟩ fun _ => rfl

variable {settings : Settings} {now : Instant} {target : Path}

theorem keeps_fillWhere (selecting : allowed .selecting) (restoring : allowed .restoring)
    (due : Bool) : (fillWhere settings now volume due).Keeps volume allowed := by
  cases due with
  | false => exact keeps_pure none
  | true =>
    refine keeps_bind (keeps_setPhase selecting) fun _ => ?_
    refine keeps_bind (keeps_ofDialogue _) fun found => ?_
    cases found with
    | none => exact keeps_bind keeps_clearPending fun _ => keeps_pure none
    | some source =>
      refine keeps_bind (keeps_setPhase restoring) fun _ => ?_
      refine keeps_bind (keeps_attempt (keeps_onPool _)) fun restored => ?_
      cases restored with
      | ok _ => exact keeps_bind keeps_clearPending fun _ => keeps_pure (some source)
      | error failure => exact keeps_bind keeps_markPending fun _ => keeps_throw failure

/-- A publish never leaves its volume unpublished. -/
theorem endsIn_publishLocked (size : Size) (phase : Phase) :
    (publishLocked settings now volume target size).run.EndsIn volume (· ≠ .unpublished)
      phase := by
  refine endsIn_bind (endsIn_setPhase (by decide) phase) fun _ => ?_
  refine keeps_bind (keeps_onPool _) fun presence => ?_
  by_cases there : presence.volume.isMountedAt target = true
  · rw [if_pos there]
    exact keeps_bind (keeps_setPhase (by decide)) fun _ => keeps_pure _
  · rw [if_neg there]
    refine keeps_bind keeps_look fun agent => ?_
    refine keeps_bind (keeps_fillWhere (by decide) (by decide) _) fun source => ?_
    refine keeps_bind (keeps_setPhase (by decide)) fun _ => ?_
    refine keeps_bind (keeps_onPool _) fun mounted => ?_
    exact keeps_bind (keeps_setPhase (by decide)) fun _ => keeps_pure _

theorem keeps_depart (backingUp : allowed .backingUp) (unpublished : allowed .unpublished)
    (reason : Option String) : (depart settings now volume reason).Keeps volume allowed := by
  cases reason with
  | some reason =>
    refine keeps_bind (keeps_onPool _) fun _ => ?_
    exact keeps_bind (keeps_setPhase unpublished) fun _ => keeps_pure _
  | none =>
    refine keeps_bind (keeps_onPool _) fun _ => ?_
    refine keeps_bind (keeps_onPool _) fun _ => ?_
    refine keeps_bind (keeps_setPhase backingUp) fun _ => ?_
    refine keeps_bind (keeps_ofDialogue _) fun report => ?_
    refine keeps_bind (keeps_onPool _) fun _ => ?_
    exact keeps_bind (keeps_setPhase unpublished) fun _ => keeps_pure _

/-- A release may leave its volume in any phase. -/
theorem endsIn_unpublishLocked (phase : Phase) :
    (unpublishLocked settings now volume).run.EndsIn volume (fun _ => True) phase := by
  refine endsIn_bind (endsIn_setPhase trivial phase) fun _ => ?_
  refine keeps_bind (keeps_onPool _) fun found => ?_
  cases found with
  | none => exact keeps_throw _
  | some current => exact keeps_bind keeps_look fun agent => keeps_depart trivial trivial _

theorem endsIn_recordingFailure {errand : Errand Result} {phase : Phase}
    (ends : errand.run.EndsIn volume allowed phase) (fits : allowed .failed) :
    (recordingFailure volume errand).run.EndsIn volume allowed phase := by
  have attempted : (attempt errand).run.EndsIn volume allowed phase :=
    ends.bind fun _ _ here => here
  refine endsIn_bind attempted fun outcome => ?_
  cases outcome with
  | ok result => exact keeps_pure result
  | error failure => exact keeps_bind (keeps_setPhase fits) fun _ => keeps_throw failure

end Errand

/-! ### Requests in steps -/

namespace Request

open Operation

/-- What is checked of a request before anything is done. -/
def check (settings : Settings) : Request → Except Failure Unit
  | publish _ volume target capacity => Agent.checkPublish settings volume target capacity
  | unpublish _ volume target => Agent.checkUnpublish volume target

/-- What is done for a request while the lock of its volume is held. -/
def errand (settings : Settings) : Request → Errand Reply
  | publish now volume target capacity => do
    return .published (← Errand.recordingFailure volume
      (Errand.publishLocked settings now volume target (Agent.sizeFor settings capacity)))
  | unpublish now volume _ => do
    return .released (← Errand.recordingFailure volume
      (Errand.unpublishLocked settings now volume))

/-- The phases that a request may leave its volume in. -/
def Leaves : Request → Phase → Prop
  | publish _ _ _ _, phase => phase ≠ .unpublished
  | unpublish _ _ _, _ => True

/-- Whether the lock is looked after once it was given back. -/
def sweeps : Request → Bool
  | publish _ _ _ _ => false
  | unpublish _ _ _ => true

theorem endsIn_errand (settings : Settings) (request : Request) (phase : Phase) :
    (request.errand settings).run.EndsIn request.volume request.Leaves phase := by
  cases request with
  | publish now volume target capacity =>
    refine Errand.endsIn_bind ?_ fun given => Errand.keeps_pure _
    exact Errand.endsIn_recordingFailure (Errand.endsIn_publishLocked _ phase) Phase.noConfusion
  | unpublish now volume target =>
    refine Errand.endsIn_bind ?_ fun given => Errand.keeps_pure _
    exact Errand.endsIn_recordingFailure (Errand.endsIn_unpublishLocked phase) trivial

section Alone

variable {settings : Settings} {request : Request} {agent after : Agent}
  {exchanges : List (Exchange backends)} {outcome : Except Failure Reply}

/-- A request that fails its check does nothing, and fails with what the check says. -/
theorem converses_operation_iff_of_refused {failure : Failure}
    (invalid : request.check settings = .error failure) :
    Converses (request.operation settings) agent exchanges outcome after ↔
      exchanges = [] ∧ outcome = .error failure ∧ after = agent := by
  cases request with
  | publish now volume target capacity =>
    constructor
    · intro conversation
      obtain ⟨given, held, rfl⟩ := converses_reply_iff.1 conversation
      obtain ⟨progress, course⟩ := Agent.publishes_of_converses held
      obtain ⟨none, rfl, still⟩ := course.of_refused invalid
      exact ⟨none, rfl, still⟩
    · rintro ⟨rfl, rfl, rfl⟩
      exact converses_reply_iff.2
        ⟨.error failure, Agent.converses_of_publishes (.refused invalid), rfl⟩
  | unpublish now volume target =>
    constructor
    · intro conversation
      obtain ⟨given, held, rfl⟩ := converses_reply_iff.1 conversation
      obtain ⟨none, rfl, still⟩ := (Agent.releases_of_converses held).of_refused invalid
      exact ⟨none, rfl, still⟩
    · rintro ⟨rfl, rfl, rfl⟩
      exact converses_reply_iff.2
        ⟨.error failure, Agent.converses_of_releases (.refused invalid), rfl⟩

/-- A request that passes its check takes the lock, does its errand, and looks after the lock where
it releases the volume. -/
theorem converses_operation_iff_of_valid (valid : request.check settings = .ok ()) :
    Converses (request.operation settings) agent exchanges outcome after ↔
      ∃ middle, Converses (request.errand settings).alone (agent.locked request.volume) exchanges
          outcome middle ∧
        after = if request.sweeps then middle.relinquished request.volume else middle := by
  cases request with
  | publish now volume target capacity =>
    have errand : (Request.errand settings (publish now volume target capacity)).alone = (do
        return .published (← Agent.recordingFailure volume
          (Agent.publishLocked settings now volume target (Agent.sizeFor settings capacity)))) := by
      unfold Request.errand
      rw [Errand.alone_bind, Errand.alone_recordingFailure, Errand.alone_publishLocked]
      rfl
    rw [errand]
    constructor
    · intro conversation
      obtain ⟨given, held, rfl⟩ := converses_reply_iff.1 conversation
      obtain ⟨middle, work, rfl⟩ := (Agent.converses_publish_iff_of_valid valid).1 held
      refine ⟨_, converses_reply_iff.2 ⟨given, ?_, rfl⟩, rfl⟩
      exact Agent.converses_recordingFailure_iff.2 ⟨middle, work, rfl⟩
    · rintro ⟨last, conversation, rfl⟩
      obtain ⟨given, held, rfl⟩ := converses_reply_iff.1 conversation
      obtain ⟨middle, work, rfl⟩ := Agent.converses_recordingFailure_iff.1 held
      refine converses_reply_iff.2 ⟨given, ?_, rfl⟩
      exact (Agent.converses_publish_iff_of_valid valid).2 ⟨middle, work, rfl⟩
  | unpublish now volume target =>
    have errand : (Request.errand settings (unpublish now volume target)).alone = (do
        return .released (← Agent.recordingFailure volume
          (Agent.unpublishLocked settings now volume))) := by
      unfold Request.errand
      rw [Errand.alone_bind, Errand.alone_recordingFailure, Errand.alone_unpublishLocked]
      rfl
    rw [errand]
    constructor
    · intro conversation
      obtain ⟨given, held, rfl⟩ := converses_reply_iff.1 conversation
      obtain ⟨middle, work, rfl⟩ := (Agent.converses_unpublish_iff_of_valid valid).1 held
      refine ⟨_, converses_reply_iff.2 ⟨given, ?_, rfl⟩, rfl⟩
      exact Agent.converses_recordingFailure_iff.2 ⟨middle, work, rfl⟩
    · rintro ⟨last, conversation, rfl⟩
      obtain ⟨given, held, rfl⟩ := converses_reply_iff.1 conversation
      obtain ⟨middle, work, rfl⟩ := Agent.converses_recordingFailure_iff.1 held
      refine converses_reply_iff.2 ⟨given, ?_, rfl⟩
      exact (Agent.converses_unpublish_iff_of_valid valid).2 ⟨middle, work, rfl⟩

end Alone

end Request

end NodeAgent
