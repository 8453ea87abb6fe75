/-
This file lists the commands that a request can start. Each has one of a few fixed shapes, in which
a request only fills in its volume, an absolute path or a positive size, so nothing of it is taken
for an option. A command of the backup program sets the repository of a configured destination,
whatever the environment of that destination holds; a program that lets the later of two variables
of one name win finds another value only where a name in that environment goes on behind a sign of
equality.
-/

import Mathlib.Data.List.Forall2
import Mathlib.Data.List.TakeDrop
import NodeAgent.Memory.ScriptedHost
import NodeAgent.Proofs.Boundary
import NodeAgent.Proofs.Parsing
import NodeAgent.Proofs.Serving
import NodeAgent.Startup

namespace NodeAgent

/-! ### What a dialogue can ask -/

namespace Dialogue

variable {ports : Interface} {Result Later : Type} {allowed : ports.Question → Prop}

/-- Whatever it is answered, the dialogue asks allowed questions only. -/
def Asks (allowed : ports.Question → Prop) : Dialogue ports Result → Prop
  | .done _ => True
  | .ask asked next => allowed asked ∧ ∀ answer, (next answer).Asks allowed

theorem Asks.mono {wider : ports.Question → Prop} {dialogue : Dialogue ports Result}
    (asks : dialogue.Asks allowed) (widens : ∀ asked, allowed asked → wider asked) :
    dialogue.Asks wider := by
  induction dialogue with
  | done result => trivial
  | ask asked next inductionHypothesis =>
    exact ⟨widens asked asks.1, fun answer => inductionHypothesis answer (asks.2 answer)⟩

theorem Asks.bind {dialogue : Dialogue ports Result} {next : Result → Dialogue ports Later}
    (asks : dialogue.Asks allowed) (further : ∀ result, (next result).Asks allowed) :
    (dialogue >>= next).Asks allowed := by
  induction dialogue with
  | done result => exact further result
  | ask asked rest inductionHypothesis =>
    exact ⟨asks.1, fun answer => inductionHypothesis answer (asks.2 answer)⟩

theorem Asks.of_held {dialogue : Dialogue ports Result} {heard : List (Exchange ports)}
    {result : Result} (asks : dialogue.Asks allowed) (held : Held dialogue heard result) :
    ∀ exchange ∈ heard, allowed exchange.question := by
  induction held with
  | done result => exact fun _ member => nomatch member
  | ask answer _ inductionHypothesis =>
    exact List.forall_mem_cons.2 ⟨asks.1, inductionHypothesis (asks.2 answer)⟩

end Dialogue

/-- Whether a question to the host starts allowed commands only. -/
def HostCall.Starts (allowed : Invocation → Prop) : HostCall → Prop
  | run invocation _ | start invocation => allowed invocation
  | _ => True

theorem HostCall.Starts.mono {allowed wider : Invocation → Prop} {call : HostCall}
    (starts : call.Starts allowed) (widens : ∀ invocation, allowed invocation → wider invocation) :
    call.Starts wider := by
  cases call with
  | run invocation limit | start invocation => exact widens invocation starts
  | poll | kill | reap | pause | makeDirectories | isThere => trivial

namespace HostTask

variable {Result Later : Type} {allowed : Invocation → Prop} {invocation : Invocation}

/-- Whatever it is answered, the task starts allowed commands only. -/
def Starts (allowed : Invocation → Prop) (task : HostTask Result) : Prop :=
  Dialogue.Asks (HostCall.Starts allowed) (ExceptT.run task)

theorem Starts.bind {task : HostTask Result} {next : Result → HostTask Later}
    (starts : Starts allowed task) (further : ∀ result, Starts allowed (next result)) :
    Starts allowed (task >>= next) := by
  refine Dialogue.Asks.bind starts fun outcome => ?_
  cases outcome with
  | ok result => exact further result
  | error failure => trivial

theorem Starts.mono {task : HostTask Result} {wider : Invocation → Prop}
    (starts : Starts allowed task) (widens : ∀ invocation, allowed invocation → wider invocation) :
    Starts wider task :=
  Dialogue.Asks.mono starts fun _ starts => starts.mono widens

theorem starts_ask (call : HostCall) (starts : call.Starts allowed) :
    Starts allowed (ask call) :=
  ⟨starts, fun _ => trivial⟩

theorem starts_output (limit : Nat) (starts : allowed invocation) :
    Starts allowed (output limit invocation) :=
  (starts_ask (.run invocation limit) starts).bind fun _ => trivial

theorem starts_run (limit : Nat) (starts : allowed invocation) :
    Starts allowed (run limit invocation) :=
  (starts_output limit starts).bind fun _ => trivial

/-- A task goes on with a result, and it is over with a failure. -/
theorem held_bind_iff {task : HostTask Result} {next : Result → HostTask Later}
    {heard : List (Exchange host)} {ended : Except Failure Later} :
    Dialogue.Held (ExceptT.run (task >>= next)) heard ended ↔
      (∃ before after result, heard = before ++ after ∧
        Dialogue.Held (ExceptT.run task) before (.ok result) ∧
        Dialogue.Held (ExceptT.run (next result)) after ended) ∨
      ∃ failure, ended = .error failure ∧
        Dialogue.Held (ExceptT.run task) heard (.error failure) := by
  have opened : Dialogue.Held (ExceptT.run (task >>= next)) heard ended ↔
      ∃ before after outcome, heard = before ++ after ∧
        Dialogue.Held (ExceptT.run task) before outcome ∧
        Dialogue.Held (ExceptT.bindCont next outcome) after ended :=
    Dialogue.held_bind_iff
  rw [opened]
  constructor
  · rintro ⟨before, after, outcome, rfl, begun, rest⟩
    cases outcome with
    | ok result => exact .inl ⟨before, after, result, rfl, begun, rest⟩
    | error failure =>
      obtain ⟨rfl, rfl⟩ := Operation.held_done_iff.1 rest
      exact .inr ⟨failure, rfl, by rwa [List.append_nil]⟩
  · rintro (⟨before, after, result, rfl, begun, rest⟩ | ⟨failure, rfl, begun⟩)
    · exact ⟨before, after, .ok result, rfl, begun, rest⟩
    · exact ⟨heard, [], .error failure, (List.append_nil _).symm, begun, .done _⟩

/-- A task with a result had a result at each of its steps. -/
theorem steps_of_held_bind {task : HostTask Result} {next : Result → HostTask Later}
    {heard : List (Exchange host)} {last : Later}
    (held : Dialogue.Held (ExceptT.run (task >>= next)) heard (.ok last)) :
    ∃ before after result, heard = before ++ after ∧
      Dialogue.Held (ExceptT.run task) before (.ok result) ∧
      Dialogue.Held (ExceptT.run (next result)) after (.ok last) := by
  rcases held_bind_iff.1 held with steps | ⟨failure, none, _⟩
  · exact steps
  · cases none

theorem starts_makeMountPoint (path : Path) : Starts allowed (makeMountPoint path) := by
  refine (starts_ask (.makeDirectories path) trivial).bind fun made => ?_
  cases made with
  | ok _ => trivial
  | error fault => trivial

end HostTask

namespace Tools

/-! ### Templates -/

/-- A place in a command line: a word that no request changes, or one for the volume, for a path or
for a size. -/
inductive Slot where
  | fixed (word : String)
  | volume
  | path
  | size
deriving DecidableEq

/-- Whether a word stands in a place rightly, where the request is for the named volume. -/
def Slot.Admits (name : String) : Slot → String → Prop
  | fixed word, argument => argument = word
  | volume, argument => argument = name
  | path, argument => (Path.mk argument).isAbsolute = true
  | size, argument => ∃ size : Size, 0 < size.bytes ∧ argument = size.text

/-- The commands that requests start. -/
inductive Template where
  | listing | creation | formatting | extension | removal | mountQuery | mounting | unmounting
  | copying | snapshots | serving | saving
deriving DecidableEq

namespace Template

/-- The program of a command. -/
def program : Template → String
  | listing => "/usr/sbin/lvs"
  | creation => "/usr/sbin/lvcreate"
  | formatting => "/usr/sbin/mkfs.xfs"
  | extension => "/usr/sbin/lvextend"
  | removal => "/usr/sbin/lvremove"
  | mountQuery => "/usr/bin/findmnt"
  | mounting => "/usr/bin/mount"
  | unmounting => "/usr/bin/umount"
  | copying => "/usr/bin/cp"
  | snapshots | serving | saving => "restic"

/-- The places of a command line, for a pool, a host and a time. -/
def slots (pool : ThinPool) (host : String) (time : Timestamp) : Template → List Slot
  | listing => [.fixed "--units", .fixed "B", .fixed "--select",
      .fixed s!"pool_lv={pool.name}&&vg_name={pool.group}", .fixed "--reportformat", .fixed "json",
      .fixed "-o", .fixed "lv_name,vg_name,lv_attr,lv_size"]
  | creation => [.fixed "-V", .size, .fixed "-T", .fixed pool.shortPath, .fixed "-n", .volume]
  | formatting => [.path]
  | extension => [.fixed "--size", .size, .fixed "--resizefs", .path]
  | removal => [.fixed "-f", .path]
  | mountQuery => [.fixed "-n", .fixed "-o", .fixed "TARGET", .fixed "--source", .path]
  | mounting => [.path, .path]
  | unmounting => [.path]
  | copying => [.fixed "-a", .path, .path]
  | snapshots => [.fixed "snapshots", .fixed "--json", .fixed "--tag", .volume]
  | serving => [.fixed "mount", .path]
  | saving => [.fixed "backup", .fixed "--tag", .volume, .fixed "--host", .fixed host,
      .fixed "--time", .fixed time.argument, .path]

/-- The variables that a command sets itself, over the environment of a destination. -/
def bindings (destination : Destination) : Template → List (String × String)
  | snapshots | serving => [("RESTIC_REPOSITORY", destination.repository)]
  | saving => [("RESTIC_REPOSITORY", destination.repository), ("TZ", "UTC")]
  | _ => []

end Template

/-- Whether a command sets a variable, over what the environment of a destination holds. A program
that lets the later of two variables of one name win, as `Invocation.variablesFound` has it, finds
this value unless a name of that environment continues the name of the variable behind a sign of
equality. -/
def Binds (destination : Destination) (name value : String) (invocation : Invocation) : Prop :=
  invocation.environment.get? name = some value ∧
    ((∀ key ∈ destination.environment.keys, ¬(name ++ "=").toList <+: key.toList) →
      invocation.variablesFound.get? name = some value)

/-- Whether a command is made by a template for a request for the named volume. A command of the
backup program has the environment of a destination but for the variables that it sets itself; any
other command adds nothing to the environment. -/
structure Template.Makes (settings : Settings) (host name : String) (time : Timestamp)
    (template : Template) (invocation : Invocation) : Prop where
  program : invocation.program = template.program
  arguments : List.Forall₂ (Slot.Admits name) (template.slots settings.pool host time)
    invocation.arguments
  environment : if template.program = "restic" then
      ∃ destination ∈ settings.destinations,
        (∀ binding ∈ template.bindings destination,
          Binds destination binding.1 binding.2 invocation) ∧
        ∀ key ∉ (template.bindings destination).map Prod.fst,
          invocation.environment.get? key = destination.environment.get? key
    else invocation.environment = .empty

end Tools

namespace Invocation

end Invocation

namespace Tools

section

variable {settings : Settings} {host name : String} {time : Timestamp}

namespace Volumes

variable {device target source : Path} {size : Size}

/-- What a call of the volume tools can start. -/
inductive Used : VolumeCall → Invocation → Prop where
  | attributes (pool : ThinPool) : Used (.isThin pool) (poolAttributes pool)
  | listing (pool : ThinPool) : Used (.list pool) (listing pool)
  | listed (pool : ThinPool) (volume : Volume) : Used (.list pool) (mountQuery volume.device)
  | creation (pool : ThinPool) (name : String) (size : Size) :
      Used (.create pool name size) (creation pool name size)
  | formatting (pool : ThinPool) (name : String) (size : Size) :
      Used (.create pool name size) (formatting (pool.device name))
  | extension (pool : ThinPool) (name : String) (size : Size) :
      Used (.extend pool name size) (extension pool name size)
  | removal (pool : ThinPool) (name : String) : Used (.remove pool name) (removal pool name)
  | mountQuery (device : Path) : Used (.queryMount device) (mountQuery device)
  | mounting (device target : Path) : Used (.mount device target) (mounting device target)
  | unmounting (device : Path) : Used (.unmount device) (unmounting device)
  | copying (source target : Path) : Used (.copyTree source target) (copying source target)

/-- A call makes the volume tools start what is used for it, however the host answers. -/
theorem starts_used (limit : Nat) (call : VolumeCall) :
    HostTask.Starts (Used call) (answer limit call) := by
  cases call with
  | isThin pool =>
    exact (HostTask.starts_output limit (Used.attributes pool)).bind fun _ => trivial
  | list pool =>
    refine (HostTask.starts_run limit (Used.listing pool)).bind fun output => ?_
    refine HostTask.Starts.bind trivial fun listed => ?_
    induction listed with
    | nil => trivial
    | cons volume rest inductionHypothesis =>
      refine HostTask.Starts.bind ?_ fun _ => inductionHypothesis.bind fun _ => trivial
      exact (HostTask.starts_output limit (Used.listed pool volume)).bind fun _ => trivial
  | create pool name size =>
    exact (HostTask.starts_run limit (Used.creation pool name size)).bind fun _ =>
      (HostTask.starts_run limit (Used.formatting pool name size)).bind fun _ => trivial
  | extend pool name size =>
    exact (HostTask.starts_run limit (Used.extension pool name size)).bind fun _ => trivial
  | remove pool name =>
    exact (HostTask.starts_run limit (Used.removal pool name)).bind fun _ => trivial
  | queryMount device =>
    exact (HostTask.starts_output limit (Used.mountQuery device)).bind fun _ => trivial
  | mount device target =>
    exact (HostTask.starts_makeMountPoint target).bind fun _ =>
      (HostTask.starts_run limit (Used.mounting device target)).bind fun _ => trivial
  | unmount device =>
    exact (HostTask.starts_run limit (Used.unmounting device)).bind fun _ => trivial
  | copyTree source target =>
    exact (HostTask.starts_run limit (Used.copying source target)).bind fun _ => trivial

end Volumes

namespace Repositories

variable {destination : Destination} {mountPoint source : Path} {usage : Usage}

/-- A snapshot that is mounted is said to be where its content is. -/
theorem eq_contentDirectory_of_held {snapshot : Snapshot} {content : Path} {child : Child}
    {heard : List (Exchange NodeAgent.host)}
    (held : Dialogue.Held (ExceptT.run (mount usage destination snapshot mountPoint)) heard
      (.ok (content, child))) : content = contentDirectory mountPoint snapshot := by
  obtain ⟨_, _, _, _, _, held⟩ := HostTask.steps_of_held_bind held
  obtain ⟨_, _, started, _, _, held⟩ := HostTask.steps_of_held_bind held
  cases (started : Except SystemFault Child) with
  | error fault => cases held
  | ok child =>
    obtain ⟨_, _, _, _, _, held⟩ := HostTask.steps_of_held_bind held
    cases held
    rfl

end Repositories

end

end Tools

/-! ### Words that are no options -/

namespace Tools

/-- What is asked of the host is what the tools ask for the questions that they answer. -/
theorem Toolbox.Served.asks {toolbox : Toolbox} {servers last : Servers}
    {exchanges : List (Exchange backends)} {heard : List (Exchange host)}
    {allowed : HostCall → Prop} (served : toolbox.Served servers exchanges heard last)
    (each : ∀ exchange ∈ exchanges, ∀ servers : Servers,
      Dialogue.Asks allowed (toolbox.answer exchange.question servers)) :
    ∀ exchange ∈ heard, allowed exchange.question := by
  induction served with
  | nil servers => exact fun _ member => nomatch member
  | cons call answer held _ inductionHypothesis =>
    obtain ⟨here, later⟩ := List.forall_mem_cons.1 each
    intro exchange member
    rcases List.mem_append.1 member with first | rest
    · exact (here _).of_held held exchange first
    · exact inductionHypothesis later exchange rest

end Tools

namespace Memory

namespace ScriptedHost

variable {allowed : Invocation → Prop} {world : ScriptedHost}

theorem started_launch {invocation : Invocation} (before : ∀ one ∈ world.started, allowed one)
    (here : allowed invocation) : ∀ one ∈ (world.launch invocation).2.started, allowed one := by
  unfold launch
  split
  · exact before
  · intro one member
    rcases List.mem_append.1 member with earlier | now
    · exact before one earlier
    · exact List.mem_singleton.1 now ▸ here

theorem started_makeDirectories (path : Path) :
    (world.makeDirectories path).2.started = world.started := by
  unfold makeDirectories
  split
  · rfl
  · dsimp only
    split
    · rfl
    · split
      · rfl
      · rfl

theorem started_answer {call : HostCall} (before : ∀ one ∈ world.started, allowed one)
    (starts : call.Starts allowed) :
    ∀ one ∈ (ScriptedHost.answer call world).2.started, allowed one := by
  cases call with
  | run invocation limit => exact started_launch before starts
  | start invocation =>
    have launched := started_launch before starts
    unfold ScriptedHost.answer
    dsimp only
    split
    · exact launched
    · exact launched
  | makeDirectories path =>
    show ∀ one ∈ (world.makeDirectories path).2.started, allowed one
    rw [started_makeDirectories]
    exact before
  | poll | kill | reap | pause | isThere => exact before

/-- What a scripted host has started is what it was asked to start. -/
theorem held_and_started {Result : Type} (allowed : Invocation → Prop) (world : ScriptedHost)
    (dialogue : Dialogue host Result) :
    ∃ heard, Dialogue.Held dialogue heard (world.hold dialogue).1 ∧
      ((∀ one ∈ world.started, allowed one) →
        (∀ exchange ∈ heard, exchange.question.Starts allowed) →
        ∀ one ∈ (world.hold dialogue).2.started, allowed one) := by
  induction dialogue generalizing world with
  | done result => exact ⟨[], .done result, fun before _ => before⟩
  | ask asked next inductionHypothesis =>
    obtain ⟨heard, held, started⟩ := inductionHypothesis (ScriptedHost.answer asked world).1
      (ScriptedHost.answer asked world).2
    refine ⟨_, .ask _ held, fun before all => ?_⟩
    obtain ⟨here, later⟩ := List.forall_mem_cons.1 all
    exact started (started_answer before here) later

end ScriptedHost

end Memory

end NodeAgent
