/-
This file puts the volume tools and the backup program together, so that an operation of the agent
becomes a dialogue with the host.
-/

import NodeAgent.Tools.Repositories
import NodeAgent.Tools.Volumes

namespace NodeAgent.Tools

/-- How the tools are used: the time limit of a volume tool and the usage of the backup
program. -/
structure Toolbox where
  volumeLimit : Nat
  repositories : Repositories.Usage
deriving DecidableEq, Inhabited

namespace Toolbox

/-- The names of the tools: for volumes, and for repositories. -/
def names : List String := ["lvm", "restic"]

/-- Answers a call. -/
def answer (toolbox : Toolbox) (call : Call) : StateT Servers (Dialogue host) call.Answer :=
  fun servers =>
    match call with
    | .volume call => do
      let outcome : Except Failure call.Result ← Volumes.answer toolbox.volumeLimit call
      return (outcome, servers)
    | .repository call => Repositories.answer toolbox.repositories servers call

/-- Holds an operation with the tools from a state on. -/
def hold {State Result : Type} (toolbox : Toolbox) (servers : Servers) (state : State)
    (operation : Operation State Result) :
    Dialogue host ((Except Failure Result × State) × Servers) :=
  (@Dialogue.answerBy backends (Except Failure Result × State)
    (StateT Servers (Dialogue host)) _ toolbox.answer (operation.run state)).run servers

end Toolbox

end NodeAgent.Tools
