/-
This file starts the agent. The environment says which node the agent is of, where its orchestrator
is and where its configuration lies; the configuration says the rest. What was read becomes the
tools, the settings and the registration that the agent works with.
-/

import NodeAgent.Configuration
import NodeAgent.Environment
import NodeAgent.Rpc.Address
import NodeAgent.Rpc.Payload
import NodeAgent.Tools.Toolbox

namespace NodeAgent

/-- What the agent starts with. -/
structure Startup where
  node : String
  server : String
  configuration : Configuration
deriving DecidableEq, Inhabited

namespace Startup

/-- Why the agent does not start. -/
inductive Fault where
  | noNode
  | failed (failure : Failure)
deriving DecidableEq

/-- The wording of a fault. -/
def Fault.message : Fault → String
  | noNode => "NODE_ID must be set"
  | failed failure => failure.message

/-! ### Reading -/

/-- The file of variables in the working directory. -/
def variablesFile : Path := ⟨".env"⟩

/-- The value of a variable, or what is used where it is not set. -/
def variableOr (environment : Table String) (name default : String) : String :=
  (environment.get? name).getD default

/-- The file with the configuration. -/
def configurationFile (environment : Table String) : Path :=
  ⟨variableOr environment "CONFIG_FILE" "/local/config.toml"⟩

/-- The file with the secrets. -/
def secretFile (environment : Table String) : Path :=
  ⟨variableOr environment "SECRET_FILE" "/secrets/secret.toml"⟩

/-- Reads what the agent starts with from an environment and from the files that are there. A node
without a name does not look at its files. -/
def read (environment : Table String) (file : Path → Option String) : Except Fault Startup :=
  let node := variableOr environment "NODE_ID" ""
  if Text.trim node = "" then .error .noNode
  else
    match Configuration.read (file (configurationFile environment))
      (file (secretFile environment)) environment with
    | .error failure => .error (.failed failure)
    | .ok configuration =>
      .ok ⟨node, variableOr environment "SERVER_WS_URL" Rpc.Address.standard, configuration⟩

/-- Reads what the agent starts with, with the variables of the file in the working directory. -/
def readHere (environment : Table String) (file : Path → Option String) : Except Fault Startup :=
  read (Environment.withFile environment (file variablesFile)) file

/-! ### What the agent works with -/

/-- The tools. -/
def toolbox (startup : Startup) : Tools.Toolbox :=
  let volumes := startup.configuration.volumes
  ⟨volumes.volumeLimit * 1000, ⟨startup.node, volumes.repositoryLimit * 1000⟩⟩

/-- The settings, once the pool is open. -/
def settings (startup : Startup) (pool : ThinPool) : Settings :=
  let volumes := startup.configuration.volumes
  { pool
    staging := volumes.staging
    defaultSize := volumes.defaultSize
    policy := volumes.policy
    destinations := startup.configuration.destinations }

/-- Opens the pool. -/
def openPool (startup : Startup) : Operation Roster ThinPool :=
  Pool.openPool startup.configuration.volumes.pool

/-- The registration of the node on a host of a name. -/
def registration (startup : Startup) (hostname : String) : Rpc.Registration :=
  ⟨startup.node, hostname, driverName⟩

end Startup

end NodeAgent
