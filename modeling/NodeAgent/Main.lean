/-
This file is the program. It starts from the environment and the files that it names, registers, and
answers one message on each line of its input, with the volumes and repositories kept in memory. The
time at which all happens is the only argument.
-/

import NodeAgent.Memory.Backends
import NodeAgent.Rpc.Session
import NodeAgent.Startup

namespace NodeAgent.Program

/-- The variables that the program reads. -/
def variableNames : List String :=
  ["NODE_ID", "SERVER_WS_URL", "CONFIG_FILE", "SECRET_FILE"] ++
    ["STAGING_PATH", "THIN_POOL_NAME", "DEFAULT_VOLUME_SIZE", "RESTORE_POLICY",
      "VOLUME_COMMAND_TIMEOUT_SECS", "REPOSITORY_COMMAND_TIMEOUT_SECS"].map
      ("CSI__VOLUME_INFO__" ++ ·)

/-- The variables that are set. -/
def readVariables : IO (Table String) := do
  let values ← variableNames.mapM fun name => do return (name, ← IO.getEnv name)
  return .ofList (values.filterMap fun (name, value) => value.map (name, ·))

/-- The text of a file, where it can be read. -/
def readText (path : Path) : IO (Option String) := do
  try
    let text ← IO.FS.readFile path.text
    return some text
  catch _ => return none

/-- What the program starts with. -/
def readStartup : IO (Except Startup.Fault Startup) := do
  let environment := Environment.withFile (← readVariables) (← readText Startup.variablesFile)
  let configuration ← readText (Startup.configurationFile environment)
  let secrets ← readText (Startup.secretFile environment)
  return Startup.read environment fun path =>
    if path = Startup.configurationFile environment then configuration else secrets

/-- Answers the messages of the input until it ends. -/
partial def answerLines (settings : Settings) (now : Instant) (agent : Agent)
    (world : Memory.Backends) : IO Unit := do
  let line ← (← IO.getStdin).getLine
  if line.isEmpty then return
  match (Rpc.Frame.text line).request? with
  | none => answerLines settings now agent world
  | some request =>
    let ((outcome, agent), world) :=
      world.hold agent (ExceptT.lift (Rpc.answer settings now request))
    match outcome with
    | .ok answer => IO.println answer.print
    | .error failure => IO.eprintln failure.message
    answerLines settings now agent world

end NodeAgent.Program

open NodeAgent

/-- Runs the program. -/
def main (arguments : List String) : IO UInt32 := do
  let now := match Instant.read (arguments.headD "") with
    | .ok now => now
    | .error _ => ⟨0⟩
  match ← Program.readStartup with
  | .error fault =>
    IO.eprintln s!"Error: {fault.message}"
    return 1
  | .ok startup =>
    let group := match ThinPool.read startup.configuration.volumes.pool with
      | .ok pool => pool.group
      | .error _ => ""
    let world : Memory.Backends := ⟨.ofGroup group, .empty⟩
    let ((opened, roster), world) := world.hold .empty startup.openPool
    match opened with
    | .error failure =>
      IO.eprintln s!"Error: {failure.message}"
      return 1
    | .ok pool =>
      IO.println (Rpc.Session.registration "0" (startup.registration "localhost")).print
      Program.answerLines (startup.settings pool) now (.fresh roster) world
      return 0
