/-
This file reads the section of a configuration on volumes. A section that is accepted stages below
an absolute path, names a thin pool, and has a positive size and positive time limits.
-/

import NodeAgent.Configuration.Coercion
import NodeAgent.Constants

namespace NodeAgent

/-- What a configuration says on volumes. Time limits are in seconds. -/
structure VolumeSection where
  staging : Path
  pool : String
  defaultSize : Size
  policy : RestorePolicy
  volumeLimit : Nat
  repositoryLimit : Nat
deriving DecidableEq, Inhabited

namespace VolumeSection

/-- The setting of a field: at its name in a table, and at its position in a list. -/
def field? (whole : Setting) (position : Nat) (name : String) : Option Setting :=
  match whole with
  | .table entries => Setting.lookup name entries
  | .list items => items[position]?
  | _ => none

/-- Reads a setting, or takes the default where there is none. -/
def readOr {Value : Type} (default : Value) (read : Setting → Option Value) :
    Option Setting → Option Value
  | none => some default
  | some setting => read setting

/-- Reads the section. -/
def ofSetting? (whole : Setting) : Option VolumeSection := do
  let field := field? whole
  let staging ← (field 0 "staging_path").bind Setting.asText
  let pool ← (field 1 "thin_pool_name").bind Setting.asText
  let defaultSize ← readOr defaultVolumeSize Setting.asSize (field 2 "default_volume_size")
  let policy ← readOr .onCreate Setting.asPolicy (field 3 "restore_policy")
  let volumeLimit ←
    readOr defaultVolumeTimeout Setting.asCount (field 4 "volume_command_timeout_secs")
  let repositoryLimit ←
    readOr defaultRepositoryTimeout Setting.asCount (field 5 "repository_command_timeout_secs")
  some ⟨⟨staging⟩, pool, defaultSize, policy, volumeLimit, repositoryLimit⟩

/-- Whether the section can be used. -/
def check (volumes : VolumeSection) : Except Failure Unit := do
  if !volumes.staging.isAbsolute then
    throw (.configuration
      s!"staging_path must be an absolute path, got {volumes.staging.quoted}")
  let _ ← ThinPool.read volumes.pool
  if volumes.defaultSize.bytes ≤ 0 then
    throw (.configuration "default_volume_size must be positive")
  if volumes.volumeLimit = 0 ∨ volumes.repositoryLimit = 0 then
    throw (.configuration "command timeouts must be positive")

end VolumeSection

end NodeAgent
