/-
This file defines what the agent asks of the world: the volume tools list, change and mount
volumes, and the repositories find, mount and write snapshots. Nothing here says who answers. An
operation of the agent is a dialogue of such questions with a state that is kept also when the
operation fails.
-/

import NodeAgent.Dialogue
import NodeAgent.Repository.Destination
import NodeAgent.Repository.Snapshot
import NodeAgent.Timestamp
import NodeAgent.Volume

namespace NodeAgent

/-- What the volume tools are asked. -/
inductive VolumeCall where
  | isThin (pool : ThinPool)
  | list (pool : ThinPool)
  | create (pool : ThinPool) (name : String) (size : Size)
  | extend (pool : ThinPool) (name : String) (size : Size)
  | remove (pool : ThinPool) (name : String)
  | queryMount (device : Path)
  | mount (device target : Path)
  | unmount (device : Path)
  | copyTree (source target : Path)
deriving DecidableEq

/-- What the volume tools answer where they do not fail. -/
def VolumeCall.Result : VolumeCall → Type
  | isThin _ => Bool
  | list _ => List Volume
  | queryMount _ => Option Path
  | create _ _ _ | extend _ _ _ | remove _ _ | mount _ _ | unmount _ | copyTree _ _ => Unit

/-- What the repositories are asked. -/
inductive RepositoryCall where
  | findNearest (destination : Destination) (volume : String) (time : Instant)
  | mountSnapshot (destination : Destination) (snapshot : Snapshot) (mountPoint : Path)
  | unmountSnapshot (destination : Destination) (mountPoint : Path)
  | backup (destination : Destination) (volume : String) (source : Path) (time : Timestamp)
deriving DecidableEq

/-- How a backup ended: with a result, or cut off before it had one. -/
inductive BackupEnd where
  | finished (outcome : Except Failure Unit)
  | aborted (reason : String)

/-- What the repositories answer. -/
def RepositoryCall.Answer : RepositoryCall → Type
  | findNearest _ _ _ => Except Failure (Option Snapshot)
  | mountSnapshot _ _ _ => Except Failure Path
  | unmountSnapshot _ _ => Except Failure Unit
  | backup _ _ _ _ => BackupEnd

/-- A question of the agent. -/
inductive Call where
  | volume (call : VolumeCall)
  | repository (call : RepositoryCall)
deriving DecidableEq

/-- The answer to a question of the agent. -/
def Call.Answer : Call → Type
  | volume call => Except Failure call.Result
  | repository call => call.Answer

/-- The questions of the agent with their answers. -/
def backends : Interface := ⟨Call, Call.Answer⟩

/-- An operation of the agent: it asks, changes a state and may fail. -/
abbrev Operation (State Result : Type) := ExceptT Failure (StateT State (Dialogue backends)) Result

namespace Operation

variable {State Larger Result : Type}

/-- Goes on with a result or fails with its failure. -/
def fromResult (result : Except Failure Result) : Operation State Result :=
  ExceptT.mk (pure result)

/-- Carries out an operation and looks at its result, whatever it is. -/
def attempt (operation : Operation State Result) : Operation State (Except Failure Result) :=
  ExceptT.mk (Except.ok <$> operation.run)

/-- A dialogue as an operation that cannot fail. -/
def ofDialogue (dialogue : Dialogue backends Result) : Operation State Result :=
  ExceptT.mk (fun state => Dialogue.andThen dialogue fun result => .done (.ok result, state))

/-- An operation on a part of a larger state. -/
def within (part : Larger → State) (update : State → Larger → Larger)
    (operation : Operation State Result) : Operation Larger Result :=
  ExceptT.mk (fun larger =>
    Dialogue.andThen (operation.run (part larger)) fun (result, state) =>
      .done (result, update state larger))

/-- Asks the volume tools. -/
def askVolume (call : VolumeCall) : Operation State call.Result :=
  ExceptT.mk (fun state =>
    @Dialogue.ask backends (Except Failure call.Result × State) (.volume call) fun answer =>
      .done (answer, state))

/-- Asks a repository; the answer may hold a failure. -/
def askRepository (call : RepositoryCall) : Operation State call.Answer :=
  ExceptT.mk (fun state =>
    @Dialogue.ask backends (Except Failure call.Answer × State) (.repository call) fun answer =>
      .done (.ok answer, state))

end Operation

end NodeAgent
