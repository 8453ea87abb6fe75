/-
This file puts publishes and releases together as requests. What is true of every call of the agent
is stated once for a request; a conversation of it is that of one of the two and so completes a call
for the same volume.
-/

import NodeAgent.Proofs.Resting

namespace NodeAgent

/-- What the agent is asked to do. -/
inductive Request where
  | publish (now : Instant) (volume : String) (target : Path) (capacity : Option Int)
  | unpublish (now : Instant) (volume : String) (target : Path)
deriving DecidableEq

/-- What a request that comes out well results in. -/
inductive Reply where
  | published (given : Published)
  | released (given : Released)
deriving DecidableEq

namespace Request

open Operation

/-- The volume that a request is for. -/
def volume : Request → String
  | publish _ volume _ _ | unpublish _ volume _ => volume

/-- How the agent carries a request out. -/
def operation (settings : Settings) : Request → Operation Agent Reply
  | publish now volume target capacity => do
    return .published (← Agent.publish settings now volume target capacity)
  | unpublish now volume target => do
    return .released (← Agent.unpublish settings now volume target)

variable {settings : Settings} {agent after : Agent} {exchanges : List (Exchange backends)}

theorem converses_reply_iff {Result : Type} {operation : Operation Agent Result}
    {reply : Result → Reply} {outcome : Except Failure Reply} :
    Converses (operation >>= fun result => pure (reply result)) agent exchanges outcome after ↔
      ∃ given, Converses operation agent exchanges given after ∧ outcome = given.map reply := by
  rw [converses_bind_iff]
  constructor
  · rintro (⟨first, second, result, middle, rfl, held, ended⟩ | ⟨failure, rfl, held⟩)
    · obtain ⟨rfl, rfl, rfl⟩ := converses_pure_iff.1 ended
      rw [List.append_nil]
      exact ⟨.ok result, held, rfl⟩
    · exact ⟨.error failure, held, rfl⟩
  · rintro ⟨given, held, rfl⟩
    cases given with
    | error failure => exact Or.inr ⟨failure, rfl, held⟩
    | ok result =>
      exact Or.inl ⟨exchanges, [], result, after, (List.append_nil _).symm, held, .done _⟩

/-- A request that was carried out is a completed call for its volume. -/
theorem step_of_converses {request : Request} {outcome : Except Failure Reply}
    (conversation : Converses (request.operation settings) agent exchanges outcome after) :
    ∃ call : Completed, Step settings agent call after ∧ call.exchanges = exchanges ∧
      call.volume = request.volume := by
  cases request with
  | publish now volume target capacity =>
    obtain ⟨given, held, _⟩ := converses_reply_iff.1 conversation
    obtain ⟨progress, step⟩ := step_publish_iff.2 held
    exact ⟨_, step, rfl, rfl⟩
  | unpublish now volume target =>
    obtain ⟨given, held, _⟩ := converses_reply_iff.1 conversation
    exact ⟨_, step_unpublish_iff.2 held, rfl, rfl⟩

end Request

end NodeAgent
