/-
This file puts the agent in front of the backends in memory. An operation that is held against them
has the conversation in which they give the answers. A session is a run whose every call is answered
that way, so each call is `Agent.publish` or `Agent.unpublish` held against the backends; the
operations that fail are set anew between calls in any way.
-/

import NodeAgent.Memory.Backends
import NodeAgent.Proofs.History
import NodeAgent.Proofs.Questions

namespace NodeAgent

namespace Memory

open Operation

/-- The backends gave these answers one after another, and this is what they came to. -/
inductive Answered : Backends → List (Exchange backends) → Backends → Prop where
  | nil (world : Backends) : Answered world [] world
  | cons {world last : Backends} {rest : List (Exchange backends)} (call : Call)
      (answered : Answered (Backends.answer call world).2 rest last) :
      Answered world (⟨call, (Backends.answer call world).1⟩ :: rest) last

namespace Answered

variable {world last : Backends} {first second : List (Exchange backends)}

theorem append_iff :
    Answered world (first ++ second) last ↔
      ∃ middle, Answered world first middle ∧ Answered middle second last := by
  induction first generalizing world with
  | nil =>
    constructor
    · intro answered
      exact ⟨world, .nil world, answered⟩
    · rintro ⟨middle, begun, ended⟩
      cases begun
      exact ended
  | cons exchange rest inductionHypothesis =>
    constructor
    · intro answered
      cases answered with
      | cons call answered =>
        obtain ⟨middle, begun, ended⟩ := inductionHypothesis.1 answered
        exact ⟨middle, .cons call begun, ended⟩
    · rintro ⟨middle, begun, ended⟩
      cases begun with
      | cons call begun => exact .cons call (inductionHypothesis.2 ⟨middle, begun, ended⟩)

end Answered

/-! ### What the repositories record -/

theorem RepositoryStore.calls_answer (store : RepositoryStore) (call : RepositoryCall) :
    (store.answer call).2.calls = store.calls ++ [call] := by
  cases call with
  | findNearest destination volume time | backup destination volume source time =>
    unfold answer unlessTold
    dsimp only
    split <;> rfl
  | mountSnapshot destination snapshot mountPoint =>
    unfold answer unlessTold mount
    dsimp only
    split
    · rfl
    split <;> rfl
  | unmountSnapshot destination mountPoint =>
    unfold answer unlessTold unmount
    dsimp only
    split
    · rfl
    split <;> rfl

theorem RepositoryStore.fst_unlessTold {Result : Type} (store : RepositoryStore)
    (repository : String) (op : RepositoryOp) (outcome : Except Failure Result × RepositoryStore) :
    (store.unlessTold repository op outcome).1 =
      if (repository, op) ∈ store.failing then .error (told repository op) else outcome.1 := by
  unfold unlessTold
  split <;> rfl

/-- A call changes neither the snapshots of repositories nor which of their operations fail. -/
theorem RepositoryStore.kept_answer (store : RepositoryStore) (call : RepositoryCall) :
    (store.answer call).2.failing = store.failing ∧
      (store.answer call).2.snapshots = store.snapshots := by
  cases call with
  | findNearest destination volume time | backup destination volume source time =>
    unfold answer unlessTold
    dsimp only
    split <;> exact ⟨rfl, rfl⟩
  | mountSnapshot destination snapshot mountPoint =>
    unfold answer unlessTold mount
    dsimp only
    split
    · exact ⟨rfl, rfl⟩
    split <;> exact ⟨rfl, rfl⟩
  | unmountSnapshot destination mountPoint =>
    unfold answer unlessTold unmount
    dsimp only
    split
    · exact ⟨rfl, rfl⟩
    split <;> exact ⟨rfl, rfl⟩

theorem Answered.repositoryCalls_eq {world last : Backends}
    {exchanges : List (Exchange backends)} (answered : Answered world exchanges last) :
    last.repositories.calls = world.repositories.calls ++ repositoryCallsOf exchanges := by
  induction answered with
  | nil world => exact (List.append_nil _).symm
  | @cons world last rest call answered inductionHypothesis =>
    rw [inductionHypothesis]
    cases call with
    | volume call => rfl
    | repository call =>
      show (world.repositories.answer call).2.calls ++ _ = _
      rw [RepositoryStore.calls_answer, List.append_assoc]
      rfl

/-! ### Conversations with the backends -/

/-- An operation that is held against the backends has the conversation in which they answer. -/
theorem Backends.hold_iff {State Result : Type} {world last : Backends} {before after : State}
    {operation : Operation State Result} {outcome : Except Failure Result} :
    world.hold before operation = ((outcome, after), last) ↔
      ∃ exchanges, Converses operation before exchanges outcome after ∧
        Answered world exchanges last := by
  unfold hold Converses
  generalize operation.run before = dialogue
  induction dialogue generalizing world with
  | done result =>
    constructor
    · intro held
      cases held
      exact ⟨[], .done _, .nil _⟩
    · rintro ⟨exchanges, held, answered⟩
      cases held
      cases answered
      rfl
  | ask asked next inductionHypothesis =>
    constructor
    · intro held
      obtain ⟨exchanges, rest, answered⟩ := (inductionHypothesis _).1 held
      exact ⟨_, .ask _ rest, .cons asked answered⟩
    · rintro ⟨exchanges, held, answered⟩
      cases held with
      | ask answer rest =>
        cases answered with
        | cons call answered => exact (inductionHypothesis _).2 ⟨_, rest, answered⟩

/-- What is asked and answered while a dialogue is held against the backends. -/
def Backends.heard {Result : Type} (world : Backends) :
    Dialogue NodeAgent.backends Result → List (Exchange NodeAgent.backends)
  | .done _ => []
  | .ask asked next =>
    let given := Backends.answer asked world
    ⟨asked, given.1⟩ :: given.2.heard (next given.1)

/-- Against the backends a dialogue has one conversation only. -/
theorem Answered.eq_heard {Result : Type} {world last : Backends} {result : Result}
    {dialogue : Dialogue backends Result} {exchanges : List (Exchange backends)}
    (answered : Answered world exchanges last) (held : Dialogue.Held dialogue exchanges result) :
    exchanges = world.heard dialogue := by
  induction held generalizing world with
  | done result => rfl
  | ask answer rest inductionHypothesis =>
    cases answered with
    | cons call answered => exact congrArg (_ :: ·) (inductionHypothesis answered)

/-- An operation that is held against the backends hears what they answer. -/
theorem Backends.converses_hold {State Result : Type} (world : Backends) (before : State)
    (operation : Operation State Result) :
    let held := world.hold before operation
    let exchanges := world.heard (operation.run before)
    Converses operation before exchanges held.1.1 held.1.2 ∧
      Answered world exchanges held.2 := by
  intro held exchanges
  obtain ⟨given, conversation, answered⟩ := Backends.hold_iff.1 (Eq.refl held)
  have same : given = exchanges := answered.eq_heard conversation
  rw [← same]
  exact ⟨conversation, answered⟩

/-- The conversation of an operation that comes out well against the backends. -/
theorem Backends.exists_conversation_of_isOk {State Result : Type} {world : Backends}
    {before : State} {operation : Operation State Result}
    (well : (world.hold before operation).1.1.isOk = true) :
    ∃ exchanges result after last, Converses operation before exchanges (.ok result) after ∧
      Answered world exchanges last := by
  generalize held : world.hold before operation = all at well
  obtain ⟨⟨outcome, after⟩, last⟩ := all
  obtain ⟨exchanges, conversation, answered⟩ := Backends.hold_iff.1 held
  cases outcome with
  | error failure => cases well
  | ok result => exact ⟨exchanges, result, after, last, conversation, answered⟩

section Steps

variable {settings : Settings} {now : Instant} {volume : String} {target : Path}
  {agent after : Agent} {world last : Backends}

/-- A publish that is held against the backends is a step in which they answer. -/
theorem Backends.hold_publish_iff {capacity : Option Int} {outcome : Except Failure Published} :
    world.hold agent (Agent.publish settings now volume target capacity) =
        ((outcome, after), last) ↔
      ∃ exchanges progress, Step settings agent
          (.publish now volume target capacity exchanges progress outcome) after ∧
        Answered world exchanges last := by
  rw [hold_iff]
  refine exists_congr fun exchanges => ?_
  rw [← step_publish_iff, exists_and_right]

/-- A release that is held against the backends is a step in which they answer. -/
theorem Backends.hold_unpublish_iff {outcome : Except Failure Released} :
    world.hold agent (Agent.unpublish settings now volume target) = ((outcome, after), last) ↔
      ∃ exchanges, Step settings agent (.unpublish now volume target exchanges outcome) after ∧
        Answered world exchanges last := by
  rw [hold_iff]
  refine exists_congr fun exchanges => ?_
  rw [step_unpublish_iff]

end Steps

/-- Other operations fail from now on. -/
def Backends.failing (world : Backends) (ops : List VolumeOp)
    (repositoryOps : List (String × RepositoryOp)) : Backends :=
  ⟨{ world.volumes with failing := ops },
    { world.repositories with failing := repositoryOps }⟩

/-- The histories of an agent in front of backends in memory, with the agent and the backends that
each of them leaves behind. -/
inductive Session (settings : Settings) (start : Backends) :
    List Completed → Agent → Backends → Prop where
  | fresh (roster : Roster) : Session settings start [] (.fresh roster) start
  | step {history agent world call after last}
      (session : Session settings start history agent world)
      (step : Step settings agent call after) (answered : Answered world call.exchanges last) :
      Session settings start (history ++ [call]) after last
  | failing {history agent world} (session : Session settings start history agent world)
      (ops : List VolumeOp) (repositoryOps : List (String × RepositoryOp)) :
      Session settings start history agent (world.failing ops repositoryOps)

namespace Session

variable {settings : Settings} {start world : Backends} {history : List Completed} {agent : Agent}

/-- Every session is a run. -/
theorem run (session : Session settings start history agent world) :
    Run settings history agent := by
  induction session with
  | fresh roster => exact .fresh roster
  | step session step answered inductionHypothesis => exact .step inductionHypothesis step
  | failing session ops repositoryOps inductionHypothesis => exact inductionHypothesis

/-- What each call of a session did, and in front of which backends. -/
theorem step_of_mem (session : Session settings start history agent world)
    {call : Completed} (member : call ∈ history) :
    ∃ before between first second, Step settings before call between ∧
      Answered first call.exchanges second := by
  induction session with
  | fresh roster => cases member
  | step session step answered inductionHypothesis =>
    rcases List.mem_append.1 member with old | new
    · exact inductionHypothesis old
    · rw [List.mem_singleton.1 new]
      exact ⟨_, _, _, _, step, answered⟩
  | failing session ops repositoryOps inductionHypothesis => exact inductionHypothesis member

/-- The repositories have recorded what they were asked in a session. -/
theorem repositoryCalls_eq (session : Session settings start history agent world) :
    world.repositories.calls =
      start.repositories.calls ++ repositoryCallsOf (exchangesOf history) := by
  induction session with
  | fresh roster => exact (List.append_nil _).symm
  | step session step answered inductionHypothesis =>
    unfold exchangesOf
    rw [answered.repositoryCalls_eq, inductionHypothesis, List.flatMap_append,
      List.flatMap_singleton, repositoryCallsOf_append, List.append_assoc]
    rfl
  | failing session ops repositoryOps inductionHypothesis => exact inductionHypothesis

theorem publish (session : Session settings start history agent world) (now : Instant)
    (volume : String) (target : Path) (capacity : Option Int) :
    let held := world.hold agent (Agent.publish settings now volume target capacity)
    ∃ exchanges progress, Session settings start
      (history ++ [.publish now volume target capacity exchanges progress held.1.1])
      held.1.2 held.2 := by
  intro held
  obtain ⟨exchanges, progress, step, answered⟩ := Backends.hold_publish_iff.1 (Eq.refl held)
  exact ⟨exchanges, progress, .step session step answered⟩

theorem unpublish (session : Session settings start history agent world) (now : Instant)
    (volume : String) (target : Path) :
    let held := world.hold agent (Agent.unpublish settings now volume target)
    ∃ exchanges, Session settings start
      (history ++ [.unpublish now volume target exchanges held.1.1]) held.1.2 held.2 := by
  intro held
  obtain ⟨exchanges, step, answered⟩ := Backends.hold_unpublish_iff.1 (Eq.refl held)
  exact ⟨exchanges, .step session step answered⟩

end Session

/-! ### Scripts -/

/-- Something that happens in a session: a request, or that other operations fail from now on. -/
inductive Event where
  | publish (now : Instant) (volume : String) (target : Path) (capacity : Option Int)
  | unpublish (now : Instant) (volume : String) (target : Path)
  | failing (ops : List VolumeOp) (repositoryOps : List (String × RepositoryOp))
deriving DecidableEq

/-- The request of a completed call, and whether it came out well. -/
def accountOf : Completed → Event × Bool
  | .publish now volume target capacity _ _ outcome =>
    (.publish now volume target capacity, outcome.isOk)
  | .unpublish now volume target _ outcome => (.unpublish now volume target, outcome.isOk)

/-- Lets events happen one after another. This gives an account of the requests, and the agent and
the backends that are left behind. -/
def play (settings : Settings) : List Event → Agent → Backends →
    List (Event × Bool) × Agent × Backends
  | [], agent, world => ([], agent, world)
  | .publish now volume target capacity :: rest, agent, world =>
    let held := world.hold agent (Agent.publish settings now volume target capacity)
    let played := play settings rest held.1.2 held.2
    ((.publish now volume target capacity, held.1.1.isOk) :: played.1, played.2)
  | .unpublish now volume target :: rest, agent, world =>
    let held := world.hold agent (Agent.unpublish settings now volume target)
    let played := play settings rest held.1.2 held.2
    ((.unpublish now volume target, held.1.1.isOk) :: played.1, played.2)
  | .failing ops repositoryOps :: rest, agent, world =>
    play settings rest agent (world.failing ops repositoryOps)

/-- Whatever happens goes on with the session. -/
theorem Session.play {settings : Settings} {start world : Backends} {history : List Completed}
    {agent : Agent} (session : Session settings start history agent world) (events : List Event) :
    let played := Memory.play settings events agent world
    ∃ more, more.map accountOf = played.1 ∧
      Session settings start (history ++ more) played.2.1 played.2.2 := by
  induction events generalizing history agent world with
  | nil => exact ⟨[], rfl, by rwa [List.append_nil]⟩
  | cons event rest inductionHypothesis =>
    cases event with
    | publish now volume target capacity =>
      obtain ⟨exchanges, progress, longer⟩ := session.publish now volume target capacity
      obtain ⟨more, account, final⟩ := inductionHypothesis longer
      rw [List.append_assoc] at final
      exact ⟨_, congrArg _ account, final⟩
    | unpublish now volume target =>
      obtain ⟨exchanges, longer⟩ := session.unpublish now volume target
      obtain ⟨more, account, final⟩ := inductionHypothesis longer
      rw [List.append_assoc] at final
      exact ⟨_, congrArg _ account, final⟩
    | failing ops repositoryOps => exact inductionHypothesis (session.failing ops repositoryOps)

/-- What happens to an agent that has not seen any request is a session. -/
theorem exists_session (settings : Settings) (start : Backends) (roster : Roster)
    (events : List Event) :
    let played := play settings events (.fresh roster) start
    ∃ history, history.map accountOf = played.1 ∧
      Session settings start history played.2.1 played.2.2 :=
  Session.play (.fresh roster) events

/-! ### A small setting -/

/-- One repository, that volumes are filled from and backed up to. -/
def smallSettings (policy : RestorePolicy) : Settings :=
  ⟨⟨"vg0", "thinpool"⟩, ⟨"/var/lib/csi/staging"⟩, ⟨1073741824⟩, policy, [⟨"repo-a", .empty⟩]⟩

/-- No volumes, and one snapshot in the repository. -/
def smallStart : Backends :=
  ⟨.ofGroup "vg0", RepositoryStore.empty.withSnapshot "repo-a" "aaaaaaaa01" ⟨1709294000000000000⟩⟩

/-- The time of all requests. -/
def smallNow : Instant := ⟨1709294400000000000⟩

/-- A publish of one volume. -/
def smallPublish (policy : RestorePolicy) : Operation Agent Published :=
  Agent.publish (smallSettings policy) smallNow "pg" ⟨"/mnt/a"⟩ none

/-- What comes of one publish. -/
def smallPublished (policy : RestorePolicy) : List (Event × Bool) × Agent × Backends :=
  play (smallSettings policy) [.publish smallNow "pg" ⟨"/mnt/a"⟩ none] (.fresh .empty) smallStart

theorem exists_session_smallPublished (policy : RestorePolicy) :
    ∃ history, history.map accountOf = (smallPublished policy).1 ∧
      Session (smallSettings policy) smallStart history (smallPublished policy).2.1
        (smallPublished policy).2.2 := by
  unfold smallPublished
  exact exists_session _ _ _ _

end Memory

end NodeAgent
