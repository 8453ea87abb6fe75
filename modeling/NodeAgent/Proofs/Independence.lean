/-
This file shows that requests for different volumes do not depend on each other. A request keeps to
its volume: in front of agents and backends that are alike for the volume it asks the same and comes
to the same. And it changes nothing that belongs to another volume, for which the agents and the
backends before and after it are therefore alike. So either of two requests may be served first.
-/

import NodeAgent.Proofs.Keeping
import NodeAgent.Proofs.Points

namespace NodeAgent

open Operation Memory

/-! ### Snapshot mount points -/

/-- The snapshots for different volumes are mounted at different places. -/
theorem Settings.canonical_snapshotPoint_ne (settings : Settings) {first second : String}
    (validFirst : checkVolumeId first = .ok ()) (validSecond : checkVolumeId second = .ok ())
    (different : first ≠ second) :
    (settings.snapshotPoint first).canonical ≠ (settings.snapshotPoint second).canonical := by
  intro equal
  have apart := settings.apart_snapshotPoints validFirst validSecond different
  exact absurd (Path.canonical_eq_iff.1 equal) (Bool.eq_false_iff.1 apart.different)

namespace Agent

variable {name key : String} {settings : Settings} {now : Instant} {target : Path}

/-! ### The agent -/

/-- An operation of the agent keeps to a volume where agents that are alike go alike. -/
abbrev KeepsTo {Result : Type} (name key : String) (operation : Operation Agent Result) : Prop :=
  Operation.KeepsTo name key (Alike name) operation

theorem keepsTo_onPool {Result : Type} {operation : Operation Roster Result}
    (keeps : Pool.KeepsTo name key operation) : KeepsTo name key (onPool operation) := by
  intro before exchanges outcome after world last conversation answered
  obtain ⟨roster, held, rfl⟩ := converses_within_iff.1 conversation
  obtain ⟨minds, twin⟩ := keeps held answered
  refine ⟨minds, fun otherBefore otherWorld similar alike => ?_⟩
  obtain ⟨again, otherRoster, otherLast, heldAgain, answers, sameCalls, -, alikeLast⟩ :=
    twin trivial alike
  exact ⟨again, _, otherLast, converses_within_iff.2 ⟨otherRoster, heldAgain, rfl⟩, answers,
    sameCalls, ⟨similar.phases, similar.pending, similar.locks⟩, alikeLast⟩

theorem keepsTo_setPhase (phase : Phase) : KeepsTo name key (setPhase name phase) :=
  keepsTo_modify fun _ _ alike => ⟨by simp, alike.pending, alike.locks⟩

theorem keepsTo_markPending : KeepsTo name key (markPending name) :=
  keepsTo_modify fun _ _ alike => ⟨alike.phases, by simp, alike.locks⟩

theorem keepsTo_clearPending : KeepsTo name key (clearPending name) :=
  keepsTo_modify fun _ _ alike => ⟨alike.phases, by simp, alike.locks⟩

theorem keepsTo_takeLock : KeepsTo name key (takeLock name) :=
  keepsTo_modify fun _ _ alike => ⟨alike.phases, alike.pending, by simp⟩

theorem keepsTo_releaseLock : KeepsTo name key (releaseLock name) := by
  refine keepsTo_modify fun first second alike => ?_
  rw [alike.phase_eq]
  by_cases unpublished : second.phase name = .unpublished
  · rw [if_pos unpublished, if_pos unpublished]
    exact ⟨alike.phases, alike.pending, by simp⟩
  · rw [if_neg unpublished, if_neg unpublished]
    exact alike

theorem keepsTo_recordingFailure {Result : Type} {operation : Operation Agent Result}
    (keeps : KeepsTo name key operation) : KeepsTo name key (recordingFailure name operation) := by
  refine keepsTo_bind (keepsTo_attempt keeps) fun result => ?_
  cases result with
  | ok result => exact keepsTo_pure result
  | error failure => exact keepsTo_bind (keepsTo_setPhase .failed) fun _ => keepsTo_throw failure

/-! ### Requests -/

theorem keepsTo_select (volume : String) (destinations : List Destination) (time : Instant) :
    KeepsTo name key (ofDialogue (Selection.select volume destinations time)) := by
  refine keepsTo_ofDialogue fun held exchange member => ?_
  obtain ⟨destination, asked⟩ := Selection.mem_of_select held exchange member
  rw [asked]
  trivial

theorem keepsTo_backupAll (volume : String) (source : Path) (destinations : List Destination)
    (time : Timestamp) :
    KeepsTo name key (ofDialogue (Backup.backupAll volume source destinations time)) := by
  refine keepsTo_ofDialogue fun held exchange member => ?_
  obtain ⟨destination, asked⟩ := Backup.mem_of_backupAll held exchange member
  rw [asked]
  trivial

theorem keepsTo_fillWhere (valid : checkVolumeId name = .ok ()) (due : Bool) :
    KeepsTo name (settings.snapshotPoint name).canonical (fillWhere settings now name due) := by
  unfold fillWhere
  cases due with
  | false => exact keepsTo_pure none
  | true =>
    refine keepsTo_bind (keepsTo_setPhase .selecting) fun _ => ?_
    refine keepsTo_bind (keepsTo_select name settings.destinations now) fun found => ?_
    cases found with
    | none => exact keepsTo_bind keepsTo_clearPending fun _ => keepsTo_pure none
    | some source =>
      refine keepsTo_bind (keepsTo_setPhase .restoring) fun _ => ?_
      have restores : Pool.KeepsTo name (settings.snapshotPoint name).canonical
          (Restore.restore settings.pool name source (settings.volumePoint name)
            (settings.snapshotPoint name)) :=
        Restore.keepsTo_restore valid source _ rfl
      refine keepsTo_bind (keepsTo_attempt (keepsTo_onPool restores)) fun restored => ?_
      cases restored with
      | ok _ => exact keepsTo_bind keepsTo_clearPending fun _ => keepsTo_pure (some source)
      | error failure => exact keepsTo_bind keepsTo_markPending fun _ => keepsTo_throw failure

theorem keepsTo_finish (valid : checkVolumeId name = .ok ()) (presence : Pool.Presence)
    (source : Option Source) : KeepsTo name key (finish settings name target presence source) := by
  refine keepsTo_bind (keepsTo_setPhase .finalMounting) fun _ => ?_
  refine keepsTo_bind (keepsTo_onPool (Pool.keepsTo_ensureMounted valid)) fun mounted => ?_
  exact keepsTo_bind (keepsTo_setPhase .published) fun _ => keepsTo_pure _

/-- A publish looks at the agent once, for the mark of its own volume. -/
theorem keepsTo_publishLocked (valid : checkVolumeId name = .ok ()) (size : Size) :
    KeepsTo name (settings.snapshotPoint name).canonical
      (publishLocked settings now name target size) := by
  rw [publishLocked_eq]
  refine keepsTo_bind (keepsTo_setPhase .presenting) fun _ => ?_
  refine keepsTo_bind (keepsTo_onPool Pool.keepsTo_ensurePresent) fun presence => ?_
  by_cases there : presence.volume.isMountedAt target = true
  · rw [if_pos there]
    exact keepsTo_bind (keepsTo_setPhase .published) fun _ => keepsTo_pure _
  · rw [if_neg there]
    refine keepsTo_get_bind (fun first second alike => ?_) fun agent => ?_
    · have sameDue : first.fills settings name presence = second.fills settings name presence := by
        unfold fills
        rw [alike.contains_pending]
      rw [sameDue]
    · refine keepsTo_bind (keepsTo_fillWhere valid _) fun source => ?_
      exact keepsTo_finish valid presence source

theorem keepsTo_publish (valid : checkVolumeId name = .ok ()) (capacity : Option Int) :
    KeepsTo name (settings.snapshotPoint name).canonical
      (publish settings now name target capacity) := by
  rw [publish_eq]
  refine keepsTo_bind (keepsTo_fromResult _) fun _ => ?_
  refine keepsTo_bind keepsTo_takeLock fun _ => ?_
  exact keepsTo_recordingFailure (keepsTo_publishLocked valid _)

theorem keepsTo_depart (valid : checkVolumeId name = .ok ()) (reason : Option String) :
    KeepsTo name key (depart settings now name reason) := by
  have unmounts : KeepsTo name key (onPool (Pool.ensureUnmounted settings.pool name)) :=
    keepsTo_onPool (Pool.keepsTo_ensureUnmounted valid)
  cases reason with
  | some reason =>
    refine keepsTo_bind unmounts fun _ => ?_
    exact keepsTo_bind (keepsTo_setPhase .unpublished) fun _ => keepsTo_pure _
  | none =>
    refine keepsTo_bind unmounts fun _ => ?_
    refine keepsTo_bind (keepsTo_onPool (Pool.keepsTo_ensureMounted valid)) fun _ => ?_
    refine keepsTo_bind (keepsTo_setPhase .backingUp) fun _ => ?_
    refine keepsTo_bind (keepsTo_backupAll _ _ _ _) fun report => ?_
    refine keepsTo_bind unmounts fun _ => ?_
    exact keepsTo_bind (keepsTo_setPhase .unpublished) fun _ => keepsTo_pure _

/-- So does a release. -/
theorem keepsTo_unpublishLocked (valid : checkVolumeId name = .ok ()) :
    KeepsTo name key (unpublishLocked settings now name) := by
  rw [unpublishLocked_eq]
  refine keepsTo_bind (keepsTo_setPhase .stagingRemount) fun _ => ?_
  refine keepsTo_bind (keepsTo_onPool Pool.keepsTo_find) fun found => ?_
  cases found with
  | none => exact keepsTo_throw _
  | some current =>
    refine keepsTo_get_bind (fun first second alike => ?_) fun agent => keepsTo_depart valid _
    have sameReason : first.skipReason? current name = second.skipReason? current name := by
      unfold skipReason?
      rw [alike.contains_pending]
    rw [sameReason]

theorem keepsTo_unpublish (valid : checkVolumeId name = .ok ()) :
    KeepsTo name key (unpublish settings now name target) := by
  rw [unpublish_eq]
  refine keepsTo_bind (keepsTo_fromResult _) fun _ => ?_
  refine keepsTo_bind keepsTo_takeLock fun _ => ?_
  refine keepsTo_bind (keepsTo_attempt (keepsTo_recordingFailure (keepsTo_unpublishLocked valid)))
    fun result => ?_
  exact keepsTo_bind keepsTo_releaseLock fun _ => keepsTo_fromResult result

end Agent

namespace Request

variable {settings : Settings}

/-- A request keeps to its volume. -/
theorem keepsTo_operation {request : Request} (valid : checkVolumeId request.volume = .ok ()) :
    Agent.KeepsTo request.volume (settings.snapshotPoint request.volume).canonical
      (request.operation settings) := by
  cases request with
  | publish now volume target capacity =>
    exact keepsTo_bind (Agent.keepsTo_publish valid capacity) fun _ => keepsTo_pure _
  | unpublish now volume target =>
    exact keepsTo_bind (Agent.keepsTo_unpublish valid) fun _ => keepsTo_pure _

end Request

namespace Memory

section Minding

variable {name key : String} {world last : Backends} {exchanges : List (Exchange backends)}

theorem Answered.volumes_alike {other : String} (answered : Answered world exchanges last)
    (minds : ∀ exchange ∈ exchanges, Call.Minds name key exchange.question)
    (different : other ≠ name) : world.volumes.Alike other last.volumes where
  stored := (answered.stored_eq fun exchange member =>
    (minds exchange member).not_touches different).symm
  group := answered.sameSetup.group.symm
  failing := answered.sameSetup.volumeFailures.symm

theorem Answered.repositories_alike {other : String} (answered : Answered world exchanges last)
    (minds : ∀ exchange ∈ exchanges, Call.Minds name key exchange.question)
    (different : other ≠ key) : world.repositories.Alike other last.repositories where
  mounted := (answered.mounts_eq fun exchange member =>
    (minds exchange member).not_touchesPoint different).symm
  snapshots := answered.sameSetup.snapshots.symm
  failing := answered.sameSetup.repositoryFailures.symm

end Minding

/-! ### Serving requests -/

/-- What comes of a request: the reply, what the agent asked, and the agent and the backends
afterwards. -/
structure Serving where
  reply : Except Failure Reply
  calls : List Call
  agent : Agent
  world : Backends

/-- Serves a request in front of the backends. -/
def serve (settings : Settings) (agent : Agent) (world : Backends) (request : Request) :
    Serving where
  reply := (world.hold agent (request.operation settings)).1.1
  calls := callsOf (world.heard ((request.operation settings).run agent))
  agent := (world.hold agent (request.operation settings)).1.2
  world := (world.hold agent (request.operation settings)).2

/-- Serves one request after another. -/
def serveBoth (settings : Settings) (agent : Agent) (world : Backends) (first second : Request) :
    Serving :=
  let served := serve settings agent world first
  serve settings served.agent served.world second

section Serving

variable {settings : Settings} {agent other : Agent} {world otherWorld : Backends}
  {request : Request}

theorem serve_eq_of_converses {exchanges : List (Exchange backends)}
    {outcome : Except Failure Reply} {after : Agent} {last : Backends}
    (conversation : Converses (request.operation settings) agent exchanges outcome after)
    (answered : Answered world exchanges last) :
    serve settings agent world request = ⟨outcome, callsOf exchanges, after, last⟩ := by
  have held : world.hold agent (request.operation settings) = ((outcome, after), last) :=
    Backends.hold_iff.2 ⟨exchanges, conversation, answered⟩
  have heard := answered.eq_heard conversation
  unfold serve
  rw [held, ← heard]

/-- Agents and backends that are alike for the volume of a request serve it alike. -/
theorem serve_alike (valid : checkVolumeId request.volume = .ok ())
    (similar : agent.Alike request.volume other)
    (alike : world.Alike request.volume (settings.snapshotPoint request.volume).canonical
      otherWorld) :
    let served := serve settings agent world request
    let again := serve settings other otherWorld request
    again.reply = served.reply ∧ again.calls = served.calls ∧
      served.agent.Alike request.volume again.agent ∧
      served.world.Alike request.volume (settings.snapshotPoint request.volume).canonical
        again.world := by
  intro served again
  obtain ⟨conversation, answered⟩ := world.converses_hold agent (request.operation settings)
  obtain ⟨exchanges, otherAfter, otherLast, conversationAgain, answers, sameCalls, after, last⟩ :=
    (Request.keepsTo_operation valid conversation answered).2 similar alike
  have result : again = ⟨served.reply, callsOf exchanges, otherAfter, otherLast⟩ :=
    serve_eq_of_converses conversationAgain answers
  rw [result]
  exact ⟨rfl, sameCalls, after, last⟩

/-- Serving a request changes only what belongs to its volume. -/
structure ServesOnly (settings : Settings) (agent : Agent) (world : Backends) (request : Request)
    (served : Serving) : Prop where
  agent : ∀ name ≠ request.volume, agent.Alike name served.agent
  volumes : ∀ name ≠ request.volume, world.volumes.Alike name served.world.volumes
  repositories : ∀ key ≠ (settings.snapshotPoint request.volume).canonical,
    world.repositories.Alike key served.world.repositories

theorem servesOnly_serve (agent : Agent) (world : Backends)
    (valid : checkVolumeId request.volume = .ok ()) :
    ServesOnly settings agent world request (serve settings agent world request) := by
  obtain ⟨conversation, answered⟩ := world.converses_hold agent (request.operation settings)
  obtain ⟨call, step, -, sameVolume⟩ := Request.step_of_converses conversation
  have minds := (Request.keepsTo_operation valid conversation answered).1
  constructor
  · exact fun name different => Agent.alike_of_step step (sameVolume ▸ different)
  · exact fun name different => answered.volumes_alike minds different
  · exact fun key different => answered.repositories_alike minds different

end Serving

/-! ### Two requests -/

/-- What a request comes to does not depend on one for another volume that is served before it. -/
theorem serve_after {settings : Settings} (agent : Agent) (world : Backends)
    {first second : Request} (validFirst : checkVolumeId first.volume = .ok ())
    (validSecond : checkVolumeId second.volume = .ok ())
    (different : first.volume ≠ second.volume) :
    let alone := serve settings agent world second
    let served := serveBoth settings agent world first second
    served.reply = alone.reply ∧ served.calls = alone.calls ∧
      alone.agent.Alike second.volume served.agent ∧
      alone.world.Alike second.volume (settings.snapshotPoint second.volume).canonical
        served.world := by
  intro alone served
  have only : ServesOnly settings agent world first (serve settings agent world first) :=
    servesOnly_serve agent world validFirst
  have apart := settings.canonical_snapshotPoint_ne validFirst validSecond different
  refine serve_alike validSecond (only.agent _ different.symm) ?_
  exact ⟨only.volumes _ different.symm, only.repositories _ apart.symm⟩

/-- What two steps leave behind is alike in either order, where each of them changes only what is
under its own key and comes to the same whether or not the other one was first. -/
theorem alike_in_either_order {Value : Type} {related : String → Value → Value → Prop}
    (symm : ∀ {one other}, ∀ key, related key one other → related key other one)
    (trans : ∀ {one other last}, ∀ key, related key one other → related key other last →
      related key one last)
    {keyA keyB : String} {start a ab b ba : Value} (different : keyA ≠ keyB)
    (startA : ∀ key ≠ keyA, related key start a) (startB : ∀ key ≠ keyB, related key start b)
    (thenB : ∀ key ≠ keyB, related key a ab) (thenA : ∀ key ≠ keyA, related key b ba)
    (againA : related keyA a ba) (againB : related keyB b ab) (key : String) :
    related key ab ba := by
  by_cases atA : key = keyA
  · subst atA
    exact trans _ (symm _ (thenB _ different)) againA
  by_cases atB : key = keyB
  · subst atB
    exact trans _ (symm _ againB) (thenA _ different.symm)
  have before := trans _ (startA key atA) (thenB key atB)
  have after := trans _ (startB key atB) (thenA key atA)
  exact trans _ (symm _ before) after

/-- Requests for different volumes are independent: each has the same reply and asks the same
whichever is served first, the same is left behind, and neither changes what belongs to the volume
of the other. -/
theorem served_in_either_order (settings : Settings) (agent : Agent) (world : Backends)
    {first second : Request} (validFirst : checkVolumeId first.volume = .ok ())
    (validSecond : checkVolumeId second.volume = .ok ())
    (different : first.volume ≠ second.volume) :
    let a := serve settings agent world first
    let ab := serveBoth settings agent world first second
    let b := serve settings agent world second
    let ba := serveBoth settings agent world second first
    (ba.reply = a.reply ∧ ba.calls = a.calls) ∧ (ab.reply = b.reply ∧ ab.calls = b.calls) ∧
      ab.world.volumes.volumes = ba.world.volumes.volumes ∧
      ab.world.repositories.mounts = ba.world.repositories.mounts ∧
      ab.agent.phases = ba.agent.phases ∧ ab.agent.pending = ba.agent.pending ∧
      ab.agent.locks = ba.agent.locks ∧
      agent.Alike second.volume a.agent ∧
      world.Alike second.volume (settings.snapshotPoint second.volume).canonical a.world := by
  intro a ab b ba
  have apart := settings.canonical_snapshotPoint_ne validFirst validSecond different
  have onlyA : ServesOnly settings agent world first a := servesOnly_serve agent world validFirst
  have onlyB : ServesOnly settings agent world second b := servesOnly_serve agent world validSecond
  have thenB : ServesOnly settings a.agent a.world second ab := servesOnly_serve _ _ validSecond
  have thenA : ServesOnly settings b.agent b.world first ba := servesOnly_serve _ _ validFirst
  obtain ⟨replyB, callsB, agentB, worldB⟩ : ab.reply = b.reply ∧ ab.calls = b.calls ∧ _ :=
    serve_after agent world validFirst validSecond different
  obtain ⟨replyA, callsA, agentA, worldA⟩ : ba.reply = a.reply ∧ ba.calls = a.calls ∧ _ :=
    serve_after agent world validSecond validFirst different.symm
  have agents : ∀ name, ab.agent.Alike name ba.agent :=
    alike_in_either_order (fun _ => .symm) (fun _ => .trans) different onlyA.agent onlyB.agent
      thenB.agent thenA.agent agentA agentB
  have volumes : ∀ name, ab.world.volumes.Alike name ba.world.volumes :=
    alike_in_either_order (fun _ => .symm) (fun _ => .trans) different onlyA.volumes
      onlyB.volumes thenB.volumes thenA.volumes worldA.volumes worldB.volumes
  have repositories : ∀ key, ab.world.repositories.Alike key ba.world.repositories :=
    alike_in_either_order (fun _ => .symm) (fun _ => .trans) apart onlyA.repositories
      onlyB.repositories thenB.repositories thenA.repositories worldA.repositories
      worldB.repositories
  refine ⟨⟨replyA, callsA⟩, ⟨replyB, callsB⟩, ?_, ?_, ?_, ?_, ?_, ?_, ?_⟩
  · exact Table.ext_get? fun name => (volumes name).stored
  · exact Table.ext_get? fun key => (repositories key).mounted
  · exact Table.ext_get? fun name => (agents name).phases
  · exact Table.ext_get? fun name => (agents name).pending
  · exact Table.ext_get? fun name => (agents name).locks
  · exact onlyA.agent _ different.symm
  · exact ⟨onlyA.volumes _ different.symm, onlyA.repositories _ apart.symm⟩

/-- A publish of a volume at a target of its own. -/
def smallRequest (volume : String) : Request :=
  .publish smallNow volume ⟨"/mnt/" ++ volume⟩ none

/-- What comes of publishing two volumes. -/
def smallServed (first second : String) : Serving :=
  serveBoth (smallSettings .onCreate) (.fresh .empty) smallStart (smallRequest first)
    (smallRequest second)

/-- Two volumes are published, each at its own target, and whichever comes first the same volumes
are left behind. -/
theorem both_published_in_either_order :
    (smallServed "pg" "db").world.volumes.targetOf "pg" = some ⟨"/mnt/pg"⟩ ∧
      (smallServed "pg" "db").world.volumes.targetOf "db" = some ⟨"/mnt/db"⟩ ∧
      (smallServed "pg" "db").world.volumes.volumes =
        (smallServed "db" "pg").world.volumes.volumes := by
  refine ⟨by decide +kernel, by decide +kernel, ?_⟩
  have validFirst : checkVolumeId (smallRequest "pg").volume = .ok () := by decide
  have validSecond : checkVolumeId (smallRequest "db").volume = .ok () := by decide
  have different : (smallRequest "pg").volume ≠ (smallRequest "db").volume := by decide
  have independent := served_in_either_order (smallSettings .onCreate) (.fresh .empty) smallStart
    validFirst validSecond different
  unfold smallServed
  exact independent.2.2.1

end Memory

end NodeAgent
