/-
This file lets any number of calls take their steps in any order and shows that the locks serve
them: at most one call at a time works on a volume, and once all calls are done no lock of an
unpublished volume is left. A lock of an unpublished volume always has a call that will look after
it: a release that is about to, or one that refers to the lock and will finish its work first. The
steps are those of the agent: a request that no other call gets in between comes to what
`Agent.publish` or `Agent.unpublish` can come to, no more and no less.
-/

import NodeAgent.Proofs.Calls
import NodeAgent.Proofs.Independence

namespace NodeAgent

/-! ### Steps of all calls -/

/-- What the calls share, and the calls that are not finished. -/
structure Traffic where
  shared : Shared
  calls : Multiset Ongoing

namespace Traffic

/-- A call arrives, or one of the calls takes its next step. -/
inductive Step (settings : Settings) : Traffic → Traffic → Prop where
  | arrives {shared calls} (request : Request) :
      Step settings ⟨shared, calls⟩ ⟨shared, ⟨request, .arriving⟩ ::ₘ calls⟩
  | proceeds {shared call after next others} (proceeds : Proceeds settings shared call after next) :
      Step settings ⟨shared, call ::ₘ others⟩ ⟨after, next ::ₘ others⟩
  | finishes {shared call after others} (finishes : Finishes settings shared call after) :
      Step settings ⟨shared, call ::ₘ others⟩ ⟨after, others⟩

/-- What any number of calls can come to, in any order of their steps and with any answers. -/
inductive Reachable (settings : Settings) (roster : Roster) : Traffic → Prop where
  | fresh : Reachable settings roster ⟨.fresh roster, 0⟩
  | step {before after} (reachable : Reachable settings roster before)
      (step : Step settings before after) : Reachable settings roster after

end Traffic

/-! ### The invariant -/

/-- What is true however the calls took their steps: the locks are in order, each call that works
will leave its volume in a phase that it may, and a lock of an unpublished volume has a call that
will look after it. -/
structure Sound (shared : Shared) (calls : Multiset Ongoing) : Prop where
  tallied : Tallied shared calls
  working : ∀ call ∈ calls, ∀ lock rest, call.stage = .inside lock rest →
    rest.EndsIn call.volume call.request.Leaves (shared.agent.phase call.volume)
  watched : ∀ volume, shared.agent.phase volume = .unpublished → shared.Has volume →
    ∃ call ∈ calls, call.volume = volume ∧ call.stage.Begun

/-- A step for one volume leaves what the others see as it is. -/
structure Spares (volume : String) (before after : Shared) : Prop where
  phase : ∀ other ≠ volume, after.agent.phase other = before.agent.phase other
  has : ∀ other ≠ volume, after.Has other → before.Has other

theorem Shared.phase_fetch (shared : Shared) (volume other : String) :
    (shared.fetch volume).agent.phase other = shared.agent.phase other := by
  unfold fetch
  split <;> rfl

theorem Shared.has_fetch (shared : Shared) {volume other : String} (different : other ≠ volume)
    (has : (shared.fetch volume).Has other) : shared.Has other := by
  unfold fetch at has
  split at has
  · exact has
  · exact (Shared.has_make_iff.1 has).resolve_left different

theorem Shared.spares_sweep (shared : Shared) (volume : String) :
    Spares volume shared (shared.sweep volume) := by
  unfold sweep
  split
  · exact ⟨fun _ _ => rfl, fun _ _ has => (has_remove_iff.1 has).2⟩
  · exact ⟨fun _ _ => rfl, fun _ _ => id⟩

namespace Sound

variable {settings : Settings} {shared after : Shared} {others : Multiset Ongoing}
  {call next : Ongoing}

theorem fresh (roster : Roster) : Sound (.fresh roster) 0 where
  tallied := .fresh roster
  working _ member := absurd member (Multiset.notMem_zero _)
  watched _ _ has := nomatch has

/-- A call that begins its work on a volume or goes on with it. -/
theorem begun_of_proceeds (proceeds : Proceeds settings shared call after next) :
    next.request = call.request ∧ next.stage.Begun := by
  cases proceeds with
  | fetched | taken | asked | visited | dropped | looked => exact ⟨rfl, trivial⟩

theorem spares_of_proceeds (sound : Sound shared (call ::ₘ others))
    (proceeds : Proceeds settings shared call after next) : Spares call.volume shared after := by
  cases proceeds with
  | @fetched request valid =>
    exact ⟨fun other _ => shared.phase_fetch request.volume other,
      fun _ different has => shared.has_fetch different has⟩
  | taken | asked | dropped | looked => exact ⟨fun _ _ => rfl, fun _ _ => id⟩
  | @visited request lock change next =>
    obtain ⟨only, _⟩ := sound.working _ (Multiset.mem_cons_self _ _) lock _ rfl
    refine ⟨only.phase shared.agent, fun other _ has => ?_⟩
    unfold Shared.Has at has ⊢
    rwa [only.locks] at has

theorem tallied_of_proceeds (sound : Sound shared (call ::ₘ others))
    (proceeds : Proceeds settings shared call after next) : Tallied after (next ::ₘ others) := by
  have tallied := sound.tallied
  cases proceeds with
  | @fetched request valid => exact ((Tallied.cons_iff rfl).1 tallied).fetch request
  | taken free => exact tallied.take free
  | asked answer => exact tallied.work rfl
  | @visited request lock change next =>
    obtain ⟨only, _⟩ := sound.working _ (Multiset.mem_cons_self _ _) lock _ rfl
    exact tallied.work (only.locks shared.agent)
  | dropped sweeps => exact (Tallied.cons_iff rfl).2 tallied.drop
  | looked unpublished => exact (Tallied.cons_iff rfl).2 ((Tallied.cons_iff rfl).1 tallied)

/-- The call that takes the step still leaves its volume in a phase that it may. -/
theorem working_of_proceeds (sound : Sound shared (call ::ₘ others))
    (proceeds : Proceeds settings shared call after next) {lock : Nat}
    {rest : Dialogue steps (Except Failure Reply)} (inside : next.stage = .inside lock rest) :
    rest.EndsIn next.volume next.request.Leaves (after.agent.phase next.volume) := by
  have works := sound.working call (Multiset.mem_cons_self _ _)
  cases proceeds with
  | fetched | dropped | looked => cases inside
  | @taken request lock free =>
    cases inside
    exact request.endsIn_errand settings _
  | asked answer =>
    cases inside
    exact works _ _ rfl answer
  | visited =>
    cases inside
    exact (works _ _ rfl).2 shared.agent rfl

/-- Nor does it change the phase of a volume that another call works on. -/
theorem phase_of_proceeds (sound : Sound shared (call ::ₘ others))
    (proceeds : Proceeds settings shared call after next) {other : Ongoing} {lock : Nat}
    (member : other ∈ others) (holds : other.stage.holds? = some lock) :
    after.agent.phase other.volume = shared.agent.phase other.volume := by
  have spares := sound.spares_of_proceeds proceeds
  cases proceeds with
  | @fetched request valid => exact shared.phase_fetch request.volume other.volume
  | taken | asked | dropped | looked => rfl
  | visited => exact spares.phase _ (sound.tallied.volume_ne member holds)

/-- A call that goes on leaves everything sound. -/
theorem proceeds (sound : Sound shared (call ::ₘ others))
    (proceeds : Proceeds settings shared call after next) : Sound after (next ::ₘ others) := by
  obtain ⟨sameRequest, begun⟩ := begun_of_proceeds proceeds
  have spares := sound.spares_of_proceeds proceeds
  refine ⟨sound.tallied_of_proceeds proceeds, fun other member lock rest inside => ?_,
    fun volume unpublished has => ?_⟩
  · rcases Multiset.mem_cons.1 member with rfl | old
    · exact sound.working_of_proceeds proceeds inside
    · rw [sound.phase_of_proceeds proceeds old (congrArg Stage.holds? inside)]
      exact sound.working other (Multiset.mem_cons_of_mem old) lock rest inside
  · by_cases own : volume = call.volume
    · exact ⟨next, Multiset.mem_cons_self _ _, own ▸ congrArg Request.volume sameRequest, begun⟩
    · rw [spares.phase volume own] at unpublished
      obtain ⟨other, member, rfl, watching⟩ :=
        sound.watched volume unpublished (spares.has volume own has)
      have old := (Multiset.mem_cons.1 member).resolve_left fun same => own (same ▸ rfl)
      exact ⟨other, Multiset.mem_cons_of_mem old, rfl, watching⟩

theorem spares_of_finishes (finishes : Finishes settings shared call after) :
    Spares call.volume shared after := by
  cases finishes with
  | refused | dropped | looked => exact ⟨fun _ _ => rfl, fun _ _ => id⟩
  | @swept request => exact shared.spares_sweep request.volume

theorem phase_of_finishes (finishes : Finishes settings shared call after) (volume : String) :
    after.agent.phase volume = shared.agent.phase volume := by
  cases finishes with
  | refused | dropped | looked => rfl
  | swept =>
    unfold Shared.sweep
    split <;> rfl

theorem tallied_of_finishes (sound : Sound shared (call ::ₘ others))
    (finishes : Finishes settings shared call after) : Tallied after others := by
  have tallied := sound.tallied
  cases finishes with
  | refused invalid => exact (Tallied.cons_iff rfl).1 tallied
  | dropped sweeps => exact tallied.drop
  | looked other => exact (Tallied.cons_iff rfl).1 tallied
  | @swept request => exact ((Tallied.cons_iff rfl).1 tallied).sweep request.volume

/-- A call that finishes leaves the lock of an unpublished volume only where another call has
fetched it. -/
theorem watched_of_finishes (sound : Sound shared (call ::ₘ others))
    (finishes : Finishes settings shared call after)
    (unpublished : after.agent.phase call.volume = .unpublished) (has : after.Has call.volume) :
    ∃ other ∈ others, other.volume = call.volume ∧ other.stage.Begun := by
  rw [phase_of_finishes finishes] at unpublished
  cases finishes with
  | @refused request failure invalid =>
    obtain ⟨other, member, own, begun⟩ := sound.watched _ unpublished has
    rcases Multiset.mem_cons.1 member with rfl | old
    · exact absurd begun id
    · exact ⟨other, old, own, begun⟩
  | @dropped request lock outcome sweeps =>
    have leaves := sound.working _ (Multiset.mem_cons_self _ _) lock _ rfl
    cases request with
    | publish => exact absurd unpublished leaves
    | unpublish => cases sweeps
  | looked other => exact absurd unpublished other
  | @swept request =>
    have tallied := (Tallied.cons_iff rfl).1 sound.tallied
    by_cases once : shared.Has request.volume ∧
        shared.references (shared.lockOf request.volume) = 1
    · unfold Shared.sweep at has
      rw [if_pos once] at has
      exact absurd rfl (Shared.has_remove_iff.1 has).1
    · unfold Shared.sweep at has
      rw [if_neg once] at has
      have counted := tallied.references _ has
      have referred : tally Stage.lock? others (shared.lockOf request.volume) ≠ 0 :=
        fun none => once ⟨has, counted.trans (congrArg (· + 1) none)⟩
      rw [Ne, tally_eq_zero_iff] at referred
      push Not at referred
      obtain ⟨other, member, refers⟩ := referred
      refine ⟨other, member, ((tallied.lockOf_eq_iff member refers has).1 rfl).symm, ?_⟩
      cases given : other.stage with
      | arriving => rw [given] at refers; cases refers
      | waiting | inside | looking | sweeping => trivial

/-- A call that finishes leaves everything sound. -/
theorem finishes (sound : Sound shared (call ::ₘ others))
    (finishes : Finishes settings shared call after) : Sound after others := by
  have spares := spares_of_finishes finishes
  refine ⟨sound.tallied_of_finishes finishes, fun other member lock rest inside => ?_,
    fun volume unpublished has => ?_⟩
  · rw [phase_of_finishes finishes]
    exact sound.working other (Multiset.mem_cons_of_mem member) lock rest inside
  · by_cases own : volume = call.volume
    · subst own
      exact sound.watched_of_finishes finishes unpublished has
    · rw [spares.phase volume own] at unpublished
      obtain ⟨other, member, rfl, begun⟩ :=
        sound.watched volume unpublished (spares.has volume own has)
      have old := (Multiset.mem_cons.1 member).resolve_left fun same => own (same ▸ rfl)
      exact ⟨other, old, rfl, begun⟩

theorem arrives (sound : Sound shared others) (request : Request) :
    Sound shared (⟨request, .arriving⟩ ::ₘ others) := by
  refine ⟨(Tallied.cons_iff rfl).2 sound.tallied, fun other member lock rest inside => ?_,
    fun volume unpublished has => ?_⟩
  · rcases Multiset.mem_cons.1 member with rfl | old
    · cases inside
    · exact sound.working other old lock rest inside
  · obtain ⟨other, member, own, begun⟩ := sound.watched volume unpublished has
    exact ⟨other, Multiset.mem_cons_of_mem member, own, begun⟩

end Sound

namespace Traffic

variable {settings : Settings} {roster : Roster} {before after traffic : Traffic}

theorem Step.sound (step : Step settings before after) (sound : Sound before.shared before.calls) :
    Sound after.shared after.calls := by
  cases step with
  | arrives request => exact sound.arrives request
  | proceeds proceeds => exact sound.proceeds proceeds
  | finishes finishes => exact sound.finishes finishes

/-- Whatever the calls came to is sound. -/
theorem Reachable.sound (reachable : Reachable settings roster traffic) :
    Sound traffic.shared traffic.calls := by
  induction reachable with
  | fresh => exact .fresh roster
  | step _ step inductionHypothesis => exact step.sound inductionHypothesis

/-! ### A call that is alone -/

/-- What calls that are at work can come to from here on. -/
abbrev Steps (settings : Settings) : Traffic → Traffic → Prop :=
  Relation.ReflTransGen (Step settings)

theorem Reachable.trans (reachable : Reachable settings roster before)
    (steps : Steps settings before after) : Reachable settings roster after := by
  induction steps with
  | refl => exact reachable
  | tail _ step inductionHypothesis => exact .step inductionHypothesis step

/-- A call goes on while no other does. -/
abbrev Goes (settings : Settings) : Shared × Case → Shared × Case → Prop :=
  Relation.ReflTransGen fun before after => before.2.Works settings before.1 after.1 after.2

theorem Goes.steps {before after : Shared × Case} (goes : Goes settings before after)
    (others : Multiset Ongoing) :
    Steps settings ⟨before.1, before.2.call ::ₘ others⟩ ⟨after.1, after.2.call ::ₘ others⟩ := by
  induction goes with
  | refl => exact .refl
  | tail _ works inductionHypothesis => exact inductionHypothesis.tail (.proceeds works.1)

theorem Goes.request_eq {before after : Shared × Case} (goes : Goes settings before after) :
    after.2.call.request = before.2.call.request := by
  induction goes with
  | refl => rfl
  | tail _ works inductionHypothesis =>
    exact (Sound.begun_of_proceeds works.1).1.trans inductionHypothesis

section Alone

variable {shared : Shared} {case : Case} {request : Request} {lock : Nat}
  {outcome known : Except Failure Reply} {last : Agent}

theorem agent_fetch (shared : Shared) (volume : String) :
    (shared.fetch volume).agent = shared.agent.locked volume := by
  unfold Shared.fetch
  by_cases has : shared.Has volume
  · obtain ⟨_, there⟩ := Option.isSome_iff_exists.1 has
    rw [if_pos has, Agent.locked, Table.insert_of_get? there]
    rfl
  · rw [if_neg has]
    rfl

theorem agent_sweep (tallied : Tallied shared 0) (volume : String) :
    (shared.sweep volume).agent = shared.agent.unlocked volume := by
  unfold Shared.sweep
  by_cases has : shared.Has volume
  · have once : shared.references (shared.lockOf volume) = 1 := tallied.references volume has
    rw [if_pos ⟨has, once⟩]
    rfl
  · have missing : shared.agent.locks.get? volume = none :=
      Option.not_isSome_iff_eq_none.1 has
    rw [if_neg fun both => has both.1, Agent.unlocked, Table.erase_of_get? missing]

/-- What a call comes to that no other call gets in between, with the agent that it leaves. -/
def Comes (settings : Settings) (start : Shared × Case) (outcome : Except Failure Reply)
    (last : Agent) : Prop :=
  ∃ middle case final, Goes settings start (middle, case) ∧
    case.Ends settings middle final outcome ∧ final.agent = last

/-- With its next step the call is finished, or it goes on from where that leads. -/
theorem comes_iff :
    Comes settings (shared, case) outcome last ↔
      (∃ final, case.Ends settings shared final outcome ∧ final.agent = last) ∨
        ∃ after next, case.Works settings shared after next ∧
          Comes settings (after, next) outcome last := by
  constructor
  · rintro ⟨middle, ended, final, goes, ends, same⟩
    rcases goes.cases_head with here | ⟨⟨after, next⟩, works, goes⟩
    · cases here
      exact .inl ⟨final, ends, same⟩
    · exact .inr ⟨after, next, works, middle, ended, final, goes, ends, same⟩
  · rintro (⟨final, ends, same⟩ | ⟨after, next, works, middle, ended, final, goes, ends, same⟩)
    · exact ⟨shared, case, final, .refl, ends, same⟩
    · exact ⟨middle, ended, final, .head works goes, ends, same⟩

theorem comes_sweeping_iff (tallied : Tallied shared 0) :
    Comes settings (shared, ⟨⟨request, .sweeping⟩, some known⟩) outcome last ↔
      outcome = known ∧ last = shared.agent.unlocked request.volume := by
  rw [comes_iff]
  constructor
  · rintro (⟨final, ⟨finishes, same⟩, rfl⟩ | ⟨after, ⟨next, kept⟩, ⟨proceeds, _⟩, _⟩)
    · cases finishes
      cases same
      exact ⟨rfl, agent_sweep tallied request.volume⟩
    · cases proceeds
  · rintro ⟨rfl, rfl⟩
    exact .inl ⟨_, ⟨.swept, rfl⟩, agent_sweep tallied request.volume⟩

theorem comes_looking_iff (tallied : Tallied shared 0) :
    Comes settings (shared, ⟨⟨request, .looking⟩, some known⟩) outcome last ↔
      outcome = known ∧ last = shared.agent.relinquished request.volume := by
  unfold Agent.relinquished
  by_cases unpublished : shared.agent.phase request.volume = .unpublished
  · rw [if_pos unpublished, comes_iff]
    constructor
    · rintro (⟨final, ⟨finishes, _⟩, _⟩ | ⟨after, ⟨next, kept⟩, ⟨proceeds, same⟩, comes⟩)
      · cases finishes with
        | looked other => exact absurd unpublished other
      · cases proceeds
        cases same
        exact (comes_sweeping_iff tallied).1 comes
    · intro ended
      exact .inr ⟨_, _, ⟨.looked unpublished, rfl⟩, (comes_sweeping_iff tallied).2 ended⟩
  · rw [if_neg unpublished, comes_iff]
    constructor
    · rintro (⟨final, ⟨finishes, same⟩, rfl⟩ | ⟨after, ⟨next, kept⟩, ⟨proceeds, _⟩, _⟩)
      · cases finishes
        cases same
        exact ⟨rfl, rfl⟩
      · cases proceeds with
        | looked here => exact absurd here unpublished
    · rintro ⟨rfl, rfl⟩
      exact .inl ⟨_, ⟨.looked unpublished, rfl⟩, rfl⟩

/-- A call whose work is done gives its lock back, and a release looks after the lock. -/
theorem comes_done_iff (tallied : Tallied (shared.drop lock) 0) :
    Comes settings (shared, ⟨⟨request, .inside lock (.done known)⟩, none⟩) outcome last ↔
      outcome = known ∧
        last = if request.sweeps then shared.agent.relinquished request.volume
          else shared.agent := by
  rw [comes_iff]
  cases sweeps : request.sweeps with
  | true =>
    rw [if_pos rfl]
    constructor
    · rintro (⟨final, ⟨finishes, _⟩, _⟩ | ⟨after, ⟨next, kept⟩, ⟨proceeds, same⟩, comes⟩)
      · cases finishes with
        | dropped otherwise => exact absurd (sweeps.symm.trans otherwise) nofun
      · cases proceeds
        cases same
        exact (comes_looking_iff tallied).1 comes
    · intro ended
      exact .inr ⟨_, _, ⟨.dropped sweeps, rfl⟩, (comes_looking_iff tallied).2 ended⟩
  | false =>
    rw [if_neg nofun]
    constructor
    · rintro (⟨final, ⟨finishes, same⟩, rfl⟩ | ⟨after, ⟨next, kept⟩, ⟨proceeds, _⟩, _⟩)
      · cases finishes
        cases same
        exact ⟨rfl, rfl⟩
      · cases proceeds with
        | dropped otherwise => exact absurd (sweeps.symm.trans otherwise) nofun
    · rintro ⟨rfl, rfl⟩
      exact .inl ⟨_, ⟨.dropped sweeps, rfl⟩, rfl⟩

/-- A call that holds its lock does its work in one go. -/
theorem comes_inside_iff {work : Dialogue NodeAgent.steps (Except Failure Reply)}
    (sound : Sound shared (⟨request, .inside lock work⟩ ::ₘ 0)) :
    Comes settings (shared, ⟨⟨request, .inside lock work⟩, none⟩) outcome last ↔
      ∃ exchanges middle, Dialogue.Held (work.alone shared.agent) exchanges (outcome, middle) ∧
        last = if request.sweeps then middle.relinquished request.volume else middle := by
  -- What is left to do shrinks with each step, and the agent goes along with it.
  induction work generalizing shared with
  | done known =>
    rw [comes_done_iff sound.tallied.drop]
    constructor
    · rintro ⟨rfl, ended⟩
      exact ⟨[], shared.agent, .done _, ended⟩
    · rintro ⟨exchanges, middle, held, ended⟩
      cases held
      exact ⟨rfl, ended⟩
  | ask act next inductionHypothesis =>
    rw [comes_iff]
    cases act with
    | ask call =>
      have further (answer : call.Answer) := inductionHypothesis answer
        (sound.proceeds (show Proceeds settings _ _ _ _ from .asked answer))
      constructor
      · rintro (⟨final, ⟨finishes, _⟩, _⟩ | ⟨after, ⟨_, kept⟩, ⟨proceeds, same⟩, comes⟩)
        · cases finishes
        · cases proceeds with
          | asked answer =>
            cases same
            obtain ⟨exchanges, middle, held, ended⟩ := (further answer).1 comes
            exact ⟨_, middle, .ask answer held, ended⟩
      · rintro ⟨exchanges, middle, held, ended⟩
        cases held with
        | ask answer held =>
          exact .inr ⟨_, _, ⟨.asked answer, rfl⟩, (further answer).2 ⟨_, middle, held, ended⟩⟩
    | visit change =>
      have further := inductionHypothesis shared.agent
        (sound.proceeds (show Proceeds settings _ _ _ _ from .visited))
      constructor
      · rintro (⟨final, ⟨finishes, _⟩, _⟩ | ⟨after, ⟨_, kept⟩, ⟨proceeds, same⟩, comes⟩)
        · cases finishes
        · cases proceeds
          cases same
          exact further.1 comes
      · intro held
        exact .inr ⟨_, _, ⟨.visited, rfl⟩, further.2 held⟩

/-- The lock is free, since nobody else has it. -/
theorem comes_waiting_iff (sound : Sound shared (⟨request, .waiting lock⟩ ::ₘ 0)) :
    Comes settings (shared, ⟨⟨request, .waiting lock⟩, none⟩) outcome last ↔
      ∃ exchanges middle, Dialogue.Held ((request.errand settings).run.alone shared.agent)
          exchanges (outcome, middle) ∧
        last = if request.sweeps then middle.relinquished request.volume else middle := by
  have free : shared.held lock = false := sound.tallied.free_of_waiting
  have inside : Sound (shared.take lock)
      (⟨request, .inside lock (request.errand settings).run⟩ ::ₘ 0) := sound.proceeds (.taken free)
  rw [comes_iff]
  constructor
  · rintro (⟨final, ⟨finishes, _⟩, _⟩ | ⟨after, ⟨_, kept⟩, ⟨proceeds, same⟩, comes⟩)
    · cases finishes
    · cases proceeds
      cases same
      exact (comes_inside_iff inside).1 comes
  · intro worked
    exact .inr ⟨_, _, ⟨.taken free, rfl⟩, (comes_inside_iff inside).2 worked⟩

/-- A request that arrives when no call is at work, and is the only one until it is finished, comes
to what the operation of the agent can come to, and leaves the same agent. -/
theorem comes_arriving_iff (sound : Sound shared 0) :
    Comes settings (shared, .arriving request) outcome last ↔
      ∃ exchanges, Operation.Converses (request.operation settings) shared.agent exchanges outcome
        last := by
  rw [comes_iff]
  generalize checked : request.check settings = check
  cases check with
  | error failure =>
    have refused := Case.settled?_of_invalid checked
    simp only [Request.converses_operation_iff_of_refused checked]
    constructor
    · rintro (⟨final, ⟨finishes, same⟩, rfl⟩ | ⟨after, ⟨_, kept⟩, ⟨proceeds, _⟩, _⟩)
      · cases finishes
        exact ⟨[], rfl, Option.some.inj (same.symm.trans refused), rfl⟩
      · cases proceeds with
        | fetched valid => exact absurd (checked.symm.trans valid) nofun
    · rintro ⟨exchanges, rfl, rfl, rfl⟩
      exact .inl ⟨_, ⟨.refused checked, refused⟩, rfl⟩
  | ok _ =>
    have accepted := Case.settled?_of_valid checked
    have waiting := (sound.arrives request).proceeds (.fetched checked)
    simp only [Request.converses_operation_iff_of_valid checked, ← agent_fetch]
    constructor
    · rintro (⟨final, ⟨finishes, _⟩, _⟩ | ⟨after, ⟨_, kept⟩, ⟨proceeds, same⟩, comes⟩)
      · cases finishes with
        | refused invalid => exact absurd (checked.symm.trans invalid) nofun
      · cases proceeds
        cases same
        exact (comes_waiting_iff waiting).1 (accepted ▸ comes)
    · intro worked
      exact .inr ⟨_, _, ⟨.fetched checked, accepted.symm⟩, (comes_waiting_iff waiting).2 worked⟩

theorem goes_of_converses (sound : Sound shared 0) {exchanges : List (Exchange backends)}
    (conversation : Operation.Converses (request.operation settings) shared.agent exchanges outcome
      last) :
    ∃ middle case final, Goes settings (shared, .arriving request) (middle, case) ∧
      case.Ends settings middle final outcome ∧ final.agent = last :=
  (comes_arriving_iff sound).2 ⟨exchanges, conversation⟩

theorem steps_of_converses (sound : Sound shared 0) {exchanges : List (Exchange backends)}
    (conversation : Operation.Converses (request.operation settings) shared.agent exchanges outcome
      last) :
    ∃ final : Shared, final.agent = last ∧ Steps settings ⟨shared, 0⟩ ⟨final, 0⟩ := by
  obtain ⟨middle, case, final, goes, ends, same⟩ := goes_of_converses sound conversation
  exact ⟨final, same, .head (.arrives request) ((goes.steps 0).tail (.finishes ends.1))⟩

/-- So it does when the backends in memory answer. -/
theorem steps_of_serve (sound : Sound shared 0) (world : Memory.Backends) (request : Request) :
    ∃ final : Shared, final.agent = (Memory.serve settings shared.agent world request).agent ∧
      Steps settings ⟨shared, 0⟩ ⟨final, 0⟩ :=
  steps_of_converses sound (world.converses_hold shared.agent (request.operation settings)).1

end Alone

/-- However the steps of any number of calls follow one another, at most one call at a time works on
a volume; and once no call is left, the table has no lock of a volume that is unpublished. -/
theorem exclusive_and_swept (reachable : Reachable settings roster traffic) :
    (∀ volume, traffic.calls.countP (·.Inside volume) ≤ 1) ∧
      (traffic.calls = 0 → ∀ volume, traffic.shared.agent.phase volume = .unpublished →
        traffic.shared.agent.locks.get? volume = none) := by
  have sound := reachable.sound
  refine ⟨sound.tallied.countP_inside_le_one, fun nobody volume unpublished => ?_⟩
  by_contra has
  obtain ⟨call, member, _⟩ :=
    sound.watched volume unpublished (Option.isSome_iff_ne_none.2 has)
  rw [nobody] at member
  exact Multiset.notMem_zero call member

/-- One volume is published and then released, in front of the backends in memory: it ends up
unpublished, and its lock is gone. -/
theorem swept_after_release :
    ∃ traffic, Reachable (Memory.smallSettings .onCreate) .empty traffic ∧ traffic.calls = 0 ∧
      traffic.shared.agent.phase "pg" = .unpublished ∧
      traffic.shared.agent.locks.get? "pg" = none := by
  have unpublished : (Memory.serveBoth (Memory.smallSettings .onCreate) (.fresh .empty)
      Memory.smallStart (Memory.smallRequest "pg")
      (.unpublish Memory.smallNow "pg" ⟨"/mnt/pg"⟩)).agent.phase "pg" = .unpublished := by
    decide +kernel
  obtain ⟨first, sameFirst, publishing⟩ := steps_of_serve (Sound.fresh .empty) Memory.smallStart
    (Memory.smallRequest "pg")
  have reached : Reachable (Memory.smallSettings .onCreate) .empty ⟨first, 0⟩ :=
    Reachable.fresh.trans publishing
  obtain ⟨last, sameLast, releasing⟩ := steps_of_serve reached.sound
    (Memory.serve (Memory.smallSettings .onCreate) (.fresh .empty) Memory.smallStart
      (Memory.smallRequest "pg")).world (.unpublish Memory.smallNow "pg" ⟨"/mnt/pg"⟩)
  have reachable := reached.trans releasing
  have phase : last.agent.phase "pg" = .unpublished := by
    rw [sameLast, sameFirst]
    exact unpublished
  exact ⟨⟨last, 0⟩, reachable, rfl, phase, (exclusive_and_swept reachable).2 rfl "pg" phase⟩

end Traffic

end NodeAgent
