/-
This file keeps a host in memory whose programs follow a script: each program that is started takes
the next line of it as what happens to it. Directories can be made anywhere but below the null
device, as long as their names fit; those that were made or listed are there, with those above them.
-/

import NodeAgent.Host.Call
import NodeAgent.Memory.Place

namespace NodeAgent.Memory

/-- What happens to a program. -/
inductive ScriptLine where
  | ends (output : Output)
  | collected
  | unstarted (fault : SystemFault)
  | hangs
deriving DecidableEq

/-- A host with the rest of its script, the programs that were started, and its children in the
order of their numbers. -/
structure ScriptedHost where
  script : List ScriptLine
  started : List Invocation
  directories : List Place
  children : List ScriptLine
deriving DecidableEq

namespace ScriptedHost

/-- What happens to a program once the script is used up. -/
def unscripted : ScriptLine :=
  .ends ⟨some 127, [], Text.octets "unscripted command"⟩

/-- The files of a host. -/
def files : List Place := [Place.nullDevice]

/-- A host at the beginning of a script, with some directories. -/
def begin (script : List ScriptLine) (directories : List Path) : ScriptedHost :=
  let places := directories.flatMap fun path =>
    match Place.passed files path with
    | .ok passed => passed
    | .error _ => []
  ⟨script, [], Place.here :: places, []⟩

/-- Starts a program: what happens to it. One whose invocation holds a null character is not
started, so it takes nothing from the script. -/
def launch (world : ScriptedHost) (invocation : Invocation) : ScriptLine × ScriptedHost :=
  if invocation.holdsNull then (.unstarted .nullInInvocation, world)
  else
    (world.script.head?.getD unscripted,
      { world with script := world.script.tail, started := world.started ++ [invocation] })

/-- How a program with a time limit goes. -/
def outcomeOf : ScriptLine → Outcome
  | .ends output => .ended output
  | .collected => .ended ⟨some 0, [], []⟩
  | .unstarted fault => .unstarted fault
  | .hangs => .overdue

/-- What is seen of a child. -/
def childState : ScriptLine → Except SystemFault ChildState
  | .ends output => .ok (.ended output.status)
  | .collected | .unstarted _ => .error (.numbered 10)
  | .hangs => .ok .running

/-- Whether a place is there. -/
def hasPlace (world : ScriptedHost) (place : Place) : Bool :=
  place.isOnWay (files ++ world.directories)

/-- Whether something is there at a path. -/
def isThere (world : ScriptedHost) (path : Path) : Bool :=
  match Place.passed files path with
  | .ok passed => passed.all world.hasPlace
  | .error _ => false

/-- The host after some places became directories. -/
def withPlaces (world : ScriptedHost) (places : List Place) : ScriptedHost :=
  { world with directories := world.directories ++ places }

/-- Makes the directory at a path and those on the way to it. A path that ends in a dot names a
directory that must be there once those above it are. -/
def makeDirectories (world : ScriptedHost) (path : Path) :
    Except SystemFault Unit × ScriptedHost :=
  match Place.passed files path with
  | .error fault => (.error fault, world)
  | .ok passed =>
    let place := passed.getLast?.getD []
    let parts := Place.parts path
    if files.contains place then (.error (.numbered 17), world)
    else if parts.getLast? = some ['.'] then
      let named := (parts.reverse.dropWhile (· = ['.'])).length
      let world := world.withPlaces (passed.take (named - 1))
      (if world.hasPlace place then .ok () else .error (.numbered 2), world)
    else (.ok (), world.withPlaces passed)

/-- Answers a call. -/
def answer (call : HostCall) : StateM ScriptedHost call.Answer := fun world =>
  match call with
  | .run invocation _ =>
    let (line, world) := world.launch invocation
    (outcomeOf line, world)
  | .start invocation =>
    let (line, world) := world.launch invocation
    match line with
    | .unstarted fault => ((.error fault : Except SystemFault Child), world)
    | line =>
      ((.ok ⟨world.children.length⟩ : Except SystemFault Child),
        { world with children := world.children ++ [line] })
  | .poll child => (childState (world.children[child.number]?.getD .collected), world)
  | .kill child => ((), { world with children := world.children.set child.number .collected })
  | .reap child _ =>
    ((childState (world.children[child.number]?.getD .collected) : Except SystemFault ChildState),
      { world with children := world.children.set child.number .collected })
  | .pause _ => ((0 : Nat), world)
  | .makeDirectories path => world.makeDirectories path
  | .isThere path => (world.isThere path, world)

/-- Holds a dialogue with the host. -/
def hold {Result : Type} (world : ScriptedHost) (dialogue : Dialogue host Result) :
    Result × ScriptedHost :=
  (@Dialogue.answerBy host Result (StateM ScriptedHost) _ answer dialogue).run world

end ScriptedHost

end NodeAgent.Memory
