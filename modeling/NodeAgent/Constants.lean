/-
This file holds the values that apply where a configuration says nothing, and the fixed ones.
-/

import NodeAgent.Size

namespace NodeAgent

/-- The name under which the agent registers. -/
def driverName : String := "restic.csi.nodeto.com"

/-- The size of a volume for which no size is asked. -/
def defaultVolumeSize : Size := .gibibytes 1

/-- The seconds that a command on volumes may take. -/
def defaultVolumeTimeout : Nat := 300

/-- The seconds that a command on repositories may take. -/
def defaultRepositoryTimeout : Nat := 6 * 60 * 60

/-- The seconds between two attempts to connect. -/
def reconnectInterval : Nat := 5

end NodeAgent
