/-
This file fills a volume from a snapshot: the volume is mounted, the snapshot is mounted, the tree
is copied, and both are released. What was mounted is released whichever step fails, and the
failure of the earliest step is the one reported.
-/

import NodeAgent.Pool
import NodeAgent.Selection

namespace NodeAgent.Restore

open Operation

/-- Fills a volume from a snapshot, by way of the two given mount points. -/
def restore (pool : ThinPool) (volume : String) (source : Source)
    (volumePoint snapshotPoint : Path) : Operation Roster Unit := do
  let _ ← Pool.ensureMounted pool volume volumePoint
  let mounted : Except Failure Path ←
    askRepository (.mountSnapshot source.destination source.snapshot snapshotPoint)
  match mounted with
  | .error failure =>
    let _ ← attempt (Pool.ensureUnmounted pool volume)
    throw failure
  | .ok content =>
    let copied ← attempt (askVolume (.copyTree content volumePoint))
    let snapshotReleased : Except Failure Unit ←
      askRepository (.unmountSnapshot source.destination snapshotPoint)
    let volumeReleased ← attempt (Pool.ensureUnmounted pool volume)
    let _ ← fromResult copied
    let _ ← fromResult snapshotReleased
    let _ ← fromResult volumeReleased

end NodeAgent.Restore
