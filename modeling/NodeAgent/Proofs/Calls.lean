/-
This file follows single calls among many. What a call comes to is settled when it is refused or
when its work is done, and is kept while the call looks after the lock. As long as there are calls
one of them can take a step, since whoever holds a lock can; and each takes finitely many, since
its work ends whatever the answers are.
-/

import NodeAgent.Proofs.Locks

namespace NodeAgent

/-! ### What a call comes to -/

/-- What a request can come to: the failure of its check, or what its work results in for some
answers of the backends and some changes that other calls make meanwhile. -/
inductive Request.CanComeTo (settings : Settings) (request : Request) :
    Except Failure Reply → Prop where
  | refused {failure} (invalid : request.check settings = .error failure) :
      CanComeTo settings request (.error failure)
  | worked {exchanges outcome} (valid : request.check settings = .ok ())
      (held : Dialogue.Held (request.errand settings).run exchanges outcome) :
      CanComeTo settings request outcome

/-- What a call comes to, where its next step settles that. -/
def Ongoing.settled? (settings : Settings) : Ongoing → Option (Except Failure Reply)
  | ⟨request, .arriving⟩ =>
    match request.check settings with
    | .ok _ => none
    | .error failure => some (.error failure)
  | ⟨_, .inside _ (.done outcome)⟩ => some outcome
  | ⟨_, _⟩ => none

/-- A call, and what it comes to once that is settled. -/
structure Case where
  call : Ongoing
  outcome : Option (Except Failure Reply)

namespace Case

/-- The case of a request that arrives. -/
def arriving (request : Request) : Case := ⟨⟨request, .arriving⟩, none⟩

/-- What is known after the next step of the call. -/
def known (settings : Settings) (case : Case) : Option (Except Failure Reply) :=
  case.outcome.or (case.call.settled? settings)

/-- A step after which the call goes on. -/
def Works (settings : Settings) (shared : Shared) (case : Case) (after : Shared) (next : Case) :
    Prop :=
  Proceeds settings shared case.call after next.call ∧ next.outcome = case.known settings

/-- The step with which the call is finished and its outcome is handed back. -/
def Ends (settings : Settings) (shared : Shared) (case : Case) (after : Shared)
    (outcome : Except Failure Reply) : Prop :=
  Finishes settings shared case.call after ∧ case.known settings = some outcome

/-- Nothing is settled before the work is done; from then on an outcome is kept that the request can
come to. -/
inductive InOrder (settings : Settings) : Case → Prop where
  | arriving (request) : InOrder settings (.arriving request)
  | waiting {request lock} (valid : request.check settings = .ok ()) :
      InOrder settings ⟨⟨request, .waiting lock⟩, none⟩
  | inside {request lock rest}
      (leads : ∀ exchanges outcome, Dialogue.Held rest exchanges outcome →
        request.CanComeTo settings outcome) :
      InOrder settings ⟨⟨request, .inside lock rest⟩, none⟩
  | looking {request outcome} (comes : request.CanComeTo settings outcome) :
      InOrder settings ⟨⟨request, .looking⟩, some outcome⟩
  | sweeping {request outcome} (comes : request.CanComeTo settings outcome) :
      InOrder settings ⟨⟨request, .sweeping⟩, some outcome⟩

variable {settings : Settings} {shared after : Shared} {case next : Case}
  {outcome : Except Failure Reply}

theorem settled?_of_invalid {request : Request} {failure : Failure}
    (invalid : request.check settings = .error failure) :
    Ongoing.settled? settings ⟨request, .arriving⟩ = some (.error failure) := by
  unfold Ongoing.settled?
  dsimp only
  rw [invalid]

theorem settled?_of_valid {request : Request} (valid : request.check settings = .ok ()) :
    Ongoing.settled? settings ⟨request, .arriving⟩ = none := by
  unfold Ongoing.settled?
  dsimp only
  rw [valid]

/-- A call that goes on stays in order and stays that of its request. -/
theorem InOrder.works (inOrder : case.InOrder settings)
    (works : Works settings shared case after next) :
    next.InOrder settings ∧ next.call.request = case.call.request := by
  obtain ⟨call, kept⟩ := next
  obtain ⟨proceeds, rfl⟩ := works
  cases inOrder with
  | arriving request =>
    cases proceeds with
    | fetched valid =>
      have unknown : (Case.arriving request).known settings = none := settled?_of_valid valid
      rw [unknown]
      exact ⟨.waiting valid, rfl⟩
  | waiting valid =>
    cases proceeds with
    | taken free => exact ⟨.inside fun _ _ held => .worked valid held, rfl⟩
  | inside leads =>
    cases proceeds with
    | asked answer => exact ⟨.inside fun _ _ held => leads _ _ (.ask answer held), rfl⟩
    | visited => exact ⟨.inside fun _ _ held => leads _ _ (.ask shared.agent held), rfl⟩
    | dropped sweeps => exact ⟨.looking (leads _ _ (.done _)), rfl⟩
  | looking comes =>
    cases proceeds with
    | looked unpublished => exact ⟨.sweeping comes, rfl⟩
  | sweeping comes => cases proceeds

/-- When a call is finished its outcome is known. -/
theorem InOrder.exists_ends (inOrder : case.InOrder settings)
    (finishes : Finishes settings shared case.call after) :
    ∃ outcome, Ends settings shared case after outcome := by
  cases inOrder with
  | arriving request =>
    cases finishes with
    | refused invalid => exact ⟨_, .refused invalid, settled?_of_invalid invalid⟩
  | waiting valid => cases finishes
  | inside leads =>
    cases finishes with
    | dropped sweeps => exact ⟨_, .dropped sweeps, rfl⟩
  | looking comes | sweeping comes => exact ⟨_, finishes, rfl⟩

/-- The outcome that is handed back is one that the request can come to. -/
theorem InOrder.canComeTo (inOrder : case.InOrder settings)
    (ends : Ends settings shared case after outcome) :
    case.call.request.CanComeTo settings outcome := by
  obtain ⟨finishes, known⟩ := ends
  cases inOrder with
  | arriving request =>
    cases finishes with
    | refused invalid =>
      cases (settled?_of_invalid invalid).symm.trans known
      exact .refused invalid
  | waiting valid => cases finishes
  | inside leads =>
    cases finishes with
    | dropped sweeps =>
      cases known
      exact leads _ _ (.done _)
  | looking comes | sweeping comes =>
    cases known
    exact comes

end Case

/-! ### Some call can take a step -/

theorem Call.nonempty_answer (call : Call) : Nonempty call.Answer := by
  cases call with
  | volume call => exact ⟨.error (.notFound "")⟩
  | repository call =>
    cases call with
    | findNearest | mountSnapshot | unmountSnapshot => exact ⟨.error (.notFound "")⟩
    | backup => exact ⟨.aborted ""⟩

/-- The call can take a step. -/
def Ongoing.Ready (settings : Settings) (shared : Shared) (call : Ongoing) : Prop :=
  (∃ after next, Proceeds settings shared call after next) ∨
    ∃ after, Finishes settings shared call after

section Ready

variable {settings : Settings} {shared : Shared} {request : Request} {calls : Multiset Ongoing}

theorem ready_arriving : Ongoing.Ready settings shared ⟨request, .arriving⟩ := by
  cases checked : request.check settings with
  | ok _ => exact .inl ⟨_, _, .fetched checked⟩
  | error failure => exact .inr ⟨_, .refused checked⟩

/-- A call that holds its lock waits for nobody. -/
theorem ready_inside {lock : Nat} {rest : Dialogue steps (Except Failure Reply)} :
    Ongoing.Ready settings shared ⟨request, .inside lock rest⟩ := by
  cases rest with
  | done outcome =>
    cases sweeps : request.sweeps with
    | true => exact .inl ⟨_, _, .dropped sweeps⟩
    | false => exact .inr ⟨_, .dropped sweeps⟩
  | ask act next =>
    cases act with
    | ask call =>
      obtain ⟨answer⟩ := call.nonempty_answer
      exact .inl ⟨_, _, .asked answer⟩
    | visit change => exact .inl ⟨_, _, .visited⟩

theorem ready_looking : Ongoing.Ready settings shared ⟨request, .looking⟩ := by
  by_cases unpublished : shared.agent.phase request.volume = .unpublished
  · exact .inl ⟨_, _, .looked unpublished⟩
  · exact .inr ⟨_, .looked unpublished⟩

/-- A call can take a step, unless it waits for a lock that another call holds. -/
theorem Tallied.ready_or_held (settings : Settings) (tallied : Tallied shared calls)
    {call : Ongoing} (member : call ∈ calls) :
    call.Ready settings shared ∨ ∃ other ∈ calls, ∃ lock, other.stage.holds? = some lock := by
  obtain ⟨request, stage⟩ := call
  cases stage with
  | arriving => exact .inl ready_arriving
  | inside => exact .inl ready_inside
  | looking => exact .inl ready_looking
  | sweeping => exact .inl (.inr ⟨_, .swept⟩)
  | waiting lock =>
    cases held : shared.held lock with
    | false => exact .inl (.inl ⟨_, _, .taken held⟩)
    | true =>
      obtain ⟨has, same⟩ := tallied.current _ member lock rfl
      have holders := tallied.holders _ has
      rw [same, held, if_pos rfl] at holders
      obtain ⟨other, there, holds⟩ := Multiset.countP_pos.1 (holders ▸ Nat.one_pos)
      exact .inr ⟨other, there, lock, holds⟩

/-- As long as there are calls, one of them can take a step. -/
theorem Tallied.exists_ready (settings : Settings) (tallied : Tallied shared calls)
    {call : Ongoing} (member : call ∈ calls) :
    ∃ ready ∈ calls, ready.Ready settings shared := by
  rcases tallied.ready_or_held settings member with ready | ⟨other, there, lock, holds⟩
  · exact ⟨call, member, ready⟩
  · obtain ⟨request, stage⟩ := other
    cases stage with
    | inside => exact ⟨_, there, ready_inside⟩
    | arriving | waiting | looking | sweeping => cases holds

end Ready

/-! ### Each call takes finitely many steps -/

/-- The call can be the same call later. -/
def Ongoing.Later (settings : Settings) (next call : Ongoing) : Prop :=
  ∃ shared after, Proceeds settings shared call after next

namespace Ongoing

variable {settings : Settings} {request : Request}

theorem acc_sweeping : Acc (Later settings) ⟨request, .sweeping⟩ := by
  refine ⟨_, ?_⟩
  rintro next ⟨shared, after, proceeds⟩
  cases proceeds

theorem acc_looking : Acc (Later settings) ⟨request, .looking⟩ := by
  refine ⟨_, ?_⟩
  rintro next ⟨shared, after, proceeds⟩
  cases proceeds
  exact acc_sweeping

/-- Whatever the answers are, there is less to do after each of them. -/
theorem acc_inside (lock : Nat) (rest : Dialogue steps (Except Failure Reply)) :
    Acc (Later settings) ⟨request, .inside lock rest⟩ := by
  induction rest with
  | done outcome =>
    refine ⟨_, ?_⟩
    rintro next ⟨shared, after, proceeds⟩
    cases proceeds
    exact acc_looking
  | ask act rest inductionHypothesis =>
    refine ⟨_, ?_⟩
    rintro next ⟨shared, after, proceeds⟩
    cases proceeds with
    | asked answer => exact inductionHypothesis answer
    | visited => exact inductionHypothesis shared.agent

theorem acc_waiting (lock : Nat) : Acc (Later settings) ⟨request, .waiting lock⟩ := by
  refine ⟨_, ?_⟩
  rintro next ⟨shared, after, proceeds⟩
  cases proceeds
  exact acc_inside ..

theorem wellFounded_later (settings : Settings) : WellFounded (Later settings) := by
  refine ⟨fun call => ?_⟩
  obtain ⟨request, stage⟩ := call
  cases stage with
  | waiting lock => exact acc_waiting lock
  | inside lock rest => exact acc_inside lock rest
  | looking => exact acc_looking
  | sweeping => exact acc_sweeping
  | arriving =>
    refine ⟨_, ?_⟩
    rintro next ⟨shared, after, proceeds⟩
    cases proceeds
    exact acc_waiting _

end Ongoing

end NodeAgent
