/-
This file says which names a request may use. A volume id becomes the name of a logical volume, a
tag of snapshots and a directory below the staging path, so it has only characters that mean the
same everywhere and cannot begin like an option or a hidden directory.
-/

import NodeAgent.Failure
import NodeAgent.Path

namespace NodeAgent

/-- The characters of a volume id. -/
def isVolumeIdChar (c : Char) : Bool :=
  c.isAlphanum || c = '-' || c = '_' || c = '.' || c = '+'

/-- Accepts a volume id. -/
def checkVolumeId (id : String) : Except Failure Unit :=
  if id = "" then .error (.invalidRequest "volume id must be provided")
  else if 127 < id.utf8ByteSize then
    .error (.invalidRequest s!"volume id {id} exceeds 127 characters")
  else if id.toList.head? = some '-' ∨ id.toList.head? = some '.' then
    .error (.invalidRequest s!"invalid volume id: {id}")
  else if !id.toList.all isVolumeIdChar then
    .error (.invalidRequest s!"volume id {id} contains characters outside [A-Za-z0-9+_.-]")
  else .ok ()

/-- Accepts a path to mount a volume at. -/
def checkTargetPath (path : Path) : Except Failure Unit :=
  if path.text = "" then .error (.invalidRequest "target path must be provided")
  else if !path.isAbsolute then
    .error (.invalidRequest s!"target path {path} must be absolute")
  else .ok ()

end NodeAgent
