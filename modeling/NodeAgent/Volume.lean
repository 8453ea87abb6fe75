/-
This file defines thin pools and the volumes in them. A pool is named by its device path
`/dev/<group>/<pool>`; a volume of the group has the device path `/dev/<group>/<volume>`.
-/

import NodeAgent.Failure
import NodeAgent.Path
import NodeAgent.Size

namespace NodeAgent

/-- A thin pool: its volume group and its name there. -/
structure ThinPool where
  group : String
  name : String
deriving DecidableEq, Inhabited

/-- A volume as it was last seen. -/
structure Volume where
  name : String
  group : String
  attributes : String
  size : Size
  mounted : Bool
  target : Option Path
deriving DecidableEq, Inhabited

/-- The path of a device of a volume group. -/
def devicePath (group name : String) : Path := ⟨s!"/dev/{group}/{name}"⟩

namespace ThinPool

/-- Reads the device path of a pool. -/
def read (path : String) : Except Failure ThinPool :=
  match Text.splitAt '/' path.toList with
  | [[], ['d', 'e', 'v'], group, name] =>
    if group ≠ [] ∧ name ≠ [] then .ok ⟨String.ofList group, String.ofList name⟩
    else .error (.configuration s!"invalid thin pool path {path}, expected /dev/<vg>/<pool>")
  | _ => .error (.configuration s!"invalid thin pool path {path}, expected /dev/<vg>/<pool>")

/-- The device path of the pool. -/
def path (pool : ThinPool) : String := s!"/dev/{pool.group}/{pool.name}"

instance : ToString ThinPool := ⟨path⟩

/-- The pool as the tool that creates volumes takes it. -/
def shortPath (pool : ThinPool) : String := s!"{pool.group}/{pool.name}"

/-- The device path of a volume of the pool. -/
def device (pool : ThinPool) (volume : String) : Path := devicePath pool.group volume

end ThinPool

namespace Volume

/-- The device path of the volume. -/
def device (volume : Volume) : Path := devicePath volume.group volume.name

/-- Whether the volume is mounted at a path. -/
def isMountedAt (volume : Volume) (path : Path) : Bool :=
  volume.mounted && volume.target.any (·.same path)

/-- The volume with the mount state that was found. -/
def withTarget (volume : Volume) (target : Option Path) : Volume :=
  { volume with mounted := target.isSome, target }

/-- A volume inside JSON. -/
def toJson (volume : Volume) : Json :=
  .object [("lv_name", .text volume.name), ("vg_name", .text volume.group),
    ("lv_attr", .text volume.attributes), ("lv_size", volume.size.toJson),
    ("mounted", .bool volume.mounted), ("target", .ofText? (volume.target.map Path.text))]

/-- Reads a path. -/
def pathDecoder : Json.Decoder Path := (Json.Decoder.textFor "path string").map Path.mk

/-- Reads a volume. -/
def decoder : Json.Decoder Volume :=
  (Json.Decoder.record "Volume"
    (.more (.required "lv_name" .text)
    (.more (.required "vg_name" .text)
    (.more (.withDefault "lv_attr" .text "")
    (.more (.required "lv_size" Size.decoder)
    (.more (.withDefault "mounted" .bool false)
    (.more (.withDefault "target" pathDecoder.optional none)
    .none))))))).map
  fun (name, group, attributes, size, mounted, target, _) =>
    ⟨name, group, attributes, size, mounted, target⟩

end Volume

end NodeAgent
