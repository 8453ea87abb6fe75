/-
This file defines what the agent asks of the host that it runs on: to run programs, to start one
that stays, to wait, and to look at directories. Lengths of time are in milliseconds.
-/

import NodeAgent.Dialogue
import NodeAgent.Host.Invocation
import NodeAgent.Path

namespace NodeAgent

/-- A program that was started and stays. -/
structure Child where
  number : Nat
deriving DecidableEq, Inhabited

/-- What the host is asked. -/
inductive HostCall where
  | run (invocation : Invocation) (limit : Nat)
  | start (invocation : Invocation)
  | poll (child : Child)
  | kill (child : Child)
  | reap (child : Child) (limit : Nat)
  | pause (duration : Nat)
  | makeDirectories (path : Path)
  | isThere (path : Path)
deriving DecidableEq

/-- What is seen of a child: it runs, or it ended with a status or was killed. -/
inductive ChildState where
  | running
  | ended (status : Option Int)
deriving DecidableEq

/-- What the host answers. A pause may last longer than asked for; the answer is by how much. -/
def HostCall.Answer : HostCall → Type
  | run _ _ => Outcome
  | start _ => Except SystemFault Child
  | poll _ => Except SystemFault ChildState
  | kill _ => Unit
  | reap _ _ => Except SystemFault ChildState
  | pause _ => Nat
  | makeDirectories _ => Except SystemFault Unit
  | isThere _ => Bool

/-- The questions to the host with their answers. -/
def host : Interface := ⟨HostCall, HostCall.Answer⟩

/-- A task on the host that may fail. -/
abbrev HostTask (Result : Type) := ExceptT Failure (Dialogue host) Result

namespace HostTask

variable {Result : Type}

/-- Puts a question to the host. -/
def ask (call : HostCall) : HostTask call.Answer :=
  ExceptT.mk (@Dialogue.ask host (Except Failure call.Answer) call fun answer =>
    .done (.ok answer))

/-- Goes on with a result or fails with its failure. -/
def fromResult (result : Except Failure Result) : HostTask Result := ExceptT.mk (.done result)

/-- Runs a program and looks at its output, whatever its status. -/
def output (limit : Nat) (invocation : Invocation) : HostTask Output := do
  let outcome : Outcome ← ask (.run invocation limit)
  fromResult (outcome.output invocation limit)

/-- Runs a program that has to succeed. -/
def run (limit : Nat) (invocation : Invocation) : HostTask Output := do
  fromResult ((← output limit invocation).checked invocation)

/-- Makes the directory that something is mounted at, with the directories above it. -/
def makeMountPoint (path : Path) : HostTask Unit := do
  let made : Except SystemFault Unit ← ask (.makeDirectories path)
  match made with
  | .ok () => return ()
  | .error fault => throw (.storage s!"Failed to create mount point {path.quoted}: {fault}")

end HostTask

end NodeAgent
