/-
This file puts the volumes and the repositories in memory together, so that an operation of the
agent can be held against them.
-/

import NodeAgent.Memory.RepositoryStore
import NodeAgent.Memory.VolumeStore

namespace NodeAgent.Memory

/-- Volumes and repositories in memory. -/
structure Backends where
  volumes : VolumeStore
  repositories : RepositoryStore
deriving DecidableEq, Inhabited

namespace Backends

/-- Answers a call. -/
def answer (call : Call) : StateM Backends call.Answer := fun world =>
  match call with
  | .volume call =>
    let (answer, volumes) := world.volumes.answer call
    (answer, { world with volumes })
  | .repository call =>
    let (answer, repositories) := world.repositories.answer call
    (answer, { world with repositories })

/-- Holds an operation against the backends from a state on. -/
def hold {State Result : Type} (world : Backends) (state : State)
    (operation : Operation State Result) : (Except Failure Result × State) × Backends :=
  (@Dialogue.answerBy backends (Except Failure Result × State) (StateM Backends) _
    answer (operation.run state)).run world

end Backends

end NodeAgent.Memory
