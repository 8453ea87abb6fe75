/-
This file answers calls of the volume tools with the programs of the logical volume manager. A
volume is listed by its name, group, attributes and size; where it is mounted is asked for each
listed device, and whatever the listing itself says about that does not count.
-/

import NodeAgent.Backend
import NodeAgent.Host.Call

namespace NodeAgent.Tools.Volumes

open HostTask

/-- Reads the listing of volumes: those of the first section of its report. -/
def listingDecoder : Json.Decoder (List Volume) :=
  let sectionDecoder : Json.Decoder (List Volume) :=
    (Json.Decoder.record "LvsSection"
      (.more (.withDefault "lv" Volume.decoder.list []) .none)).map Prod.fst
  (Json.Decoder.record "LvsReport"
    (.more (.required "report" sectionDecoder.list) .none)).map
  fun (sections, _) => sections.head?.getD []

/-! ### Invocations -/

/-- Shows the attributes of a pool. -/
def poolAttributes (pool : ThinPool) : Invocation :=
  .plain "/usr/sbin/lvs" [pool.path, "--noheadings", "-o", "lv_attr"]

/-- Lists the volumes of a pool. -/
def listing (pool : ThinPool) : Invocation :=
  .plain "/usr/sbin/lvs" ["--units", "B", "--select", s!"pool_lv={pool.name}&&vg_name={pool.group}",
    "--reportformat", "json", "-o", "lv_name,vg_name,lv_attr,lv_size"]

/-- Creates a volume. -/
def creation (pool : ThinPool) (name : String) (size : Size) : Invocation :=
  .plain "/usr/sbin/lvcreate" ["-V", size.text, "-T", pool.shortPath, "-n", name]

/-- Makes a file system on a device. -/
def formatting (device : Path) : Invocation := .plain "/usr/sbin/mkfs.xfs" [device.text]

/-- Extends a volume and its file system to a size. -/
def extension (pool : ThinPool) (name : String) (size : Size) : Invocation :=
  .plain "/usr/sbin/lvextend" ["--size", size.text, "--resizefs", (pool.device name).text]

/-- Removes a volume. -/
def removal (pool : ThinPool) (name : String) : Invocation :=
  .plain "/usr/sbin/lvremove" ["-f", (pool.device name).text]

/-- Shows where a device is mounted. -/
def mountQuery (device : Path) : Invocation :=
  .plain "/usr/bin/findmnt" ["-n", "-o", "TARGET", "--source", device.text]

/-- Mounts a device. -/
def mounting (device target : Path) : Invocation :=
  .plain "/usr/bin/mount" [device.text, target.text]

/-- Unmounts what is at a path, or a device. -/
def unmounting (place : Path) : Invocation := .plain "/usr/bin/umount" [place.text]

/-- Copies what is in a directory, but not the directory itself. -/
def copying (source target : Path) : Invocation :=
  .plain "/usr/bin/cp" ["-a", (source.entry ".").text, s!"{target}/"]

/-! ### Answers -/

/-- Whether the attributes of a logical volume are those of a thin pool. -/
def showsThinPool (output : Output) : Bool :=
  (Text.trimBy Text.isBlank (Text.lossy output.stdout).toList).head? = some 't'

/-- What a mount query found. Status 1 says that the device is not mounted. -/
def queryResult (device : Path) (output : Output) : Except Failure (Option Path) :=
  match output.status with
  | some 0 => .ok ((Text.firstLine (Text.lossy output.stdout)).map Path.mk)
  | some 1 => .ok none
  | status => .error (.backend (mountQuery device).text status output.combined)

/-- Asks where a device is mounted. -/
def queryMount (limit : Nat) (device : Path) : HostTask (Option Path) := do
  fromResult (queryResult device (← output limit (mountQuery device)))

/-- Asks for each of some volumes where it is mounted. -/
def queryMounts (limit : Nat) : List Volume → HostTask (List Volume)
  | [] => return []
  | volume :: rest => do
    let target ← queryMount limit volume.device
    let others ← queryMounts limit rest
    return volume.withTarget target :: others

/-- Lists the volumes of a pool. -/
def list (limit : Nat) (pool : ThinPool) : HostTask (List Volume) := do
  let output ← run limit (listing pool)
  let listed ← fromResult
    ((Json.decodeGlyphs listingDecoder (Text.glyphs output.stdout)).mapError Failure.serialization)
  queryMounts limit listed

/-- Answers a call, with a time limit for each program. -/
def answer (limit : Nat) : (call : VolumeCall) → HostTask call.Result
  | .isThin pool => do
    let output ← output limit (poolAttributes pool)
    return (output.succeeded && showsThinPool output : Bool)
  | .list pool => list limit pool
  | .create pool name size => do
    let _ ← run limit (creation pool name size)
    let _ ← run limit (formatting (pool.device name))
    return ()
  | .extend pool name size => do
    let _ ← run limit (extension pool name size)
    return ()
  | .remove pool name => do
    let _ ← run limit (removal pool name)
    return ()
  | .queryMount device => queryMount limit device
  | .mount device target => do
    makeMountPoint target
    let _ ← run limit (mounting device target)
    return ()
  | .unmount device => do
    let _ ← run limit (unmounting device)
    return ()
  | .copyTree source target => do
    let _ ← run limit (copying source target)
    return ()

end NodeAgent.Tools.Volumes
