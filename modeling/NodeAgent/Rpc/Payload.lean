/-
This file defines the payloads of requests and responses: the registration of a node, and the
publishing and releasing of volumes.
-/

import NodeAgent.Json.Decoder

namespace NodeAgent.Rpc

/-- The methods of the protocol. -/
def registerMethod : String := "register"

/-- The method that publishes a volume. -/
def publishMethod : String := "node_publish_volume"

/-- The method that releases a volume. -/
def unpublishMethod : String := "node_unpublish_volume"

/-! ### Registration -/

/-- A node that offers its services. -/
structure Registration where
  nodeId : String
  hostname : String
  driverName : String
deriving DecidableEq, Inhabited

namespace Registration

/-- A registration inside JSON. -/
def toJson (registration : Registration) : Json :=
  .object [("node_id", .text registration.nodeId), ("hostname", .text registration.hostname),
    ("driver_name", .text registration.driverName)]

/-- Reads a registration. -/
def decoder : Json.Decoder Registration :=
  (Json.Decoder.record "RegisterRequest"
    (.more (.required "node_id" .text)
    (.more (.required "hostname" .text)
    (.more (.required "driver_name" .text)
    .none)))).map
  fun (nodeId, hostname, driverName, _) => ⟨nodeId, hostname, driverName⟩

end Registration

/-! ### Publishing -/

/-- The request to publish a volume, with the size it needs where that is not the usual one. -/
structure PublishRequest where
  volumeId : String
  targetPath : String
  capacity : Option Int
deriving DecidableEq, Inhabited

namespace PublishRequest

/-- A request inside JSON. -/
def toJson (request : PublishRequest) : Json :=
  .object ([("volume_id", .text request.volumeId), ("target_path", .text request.targetPath)] ++
    (request.capacity.map fun capacity => ("capacity_bytes", .whole capacity)).toList)

/-- Reads a request. -/
def decoder : Json.Decoder PublishRequest :=
  (Json.Decoder.record "NodePublishVolumeRequest"
    (.more (.required "volume_id" .text)
    (.more (.required "target_path" .text)
    (.more (.withDefault "capacity_bytes" Json.Decoder.int64.optional none)
    .none)))).map
  fun (volumeId, targetPath, capacity, _) => ⟨volumeId, targetPath, capacity⟩

end PublishRequest

/-- The snapshot that a volume was filled from. -/
structure RestoredSnapshot where
  repository : String
  snapshotId : String
  time : String
deriving DecidableEq, Inhabited

namespace RestoredSnapshot

/-- A snapshot inside JSON. -/
def toJson (restored : RestoredSnapshot) : Json :=
  .object [("repository", .text restored.repository), ("snapshot_id", .text restored.snapshotId),
    ("time", .text restored.time)]

/-- Reads a snapshot. -/
def decoder : Json.Decoder RestoredSnapshot :=
  (Json.Decoder.record "RestoredSnapshot"
    (.more (.required "repository" .text)
    (.more (.required "snapshot_id" .text)
    (.more (.required "time" .text)
    .none)))).map
  fun (repository, snapshotId, time, _) => ⟨repository, snapshotId, time⟩

end RestoredSnapshot

/-- The answer to a request to publish. -/
structure PublishResponse where
  volumeId : String
  targetPath : String
  size : Int
  created : Bool
  restoredFrom : Option RestoredSnapshot
deriving DecidableEq, Inhabited

namespace PublishResponse

/-- A response inside JSON. -/
def toJson (response : PublishResponse) : Json :=
  .object ([("volume_id", .text response.volumeId), ("target_path", .text response.targetPath),
      ("size_bytes", .whole response.size), ("created", .bool response.created)] ++
    (response.restoredFrom.map fun restored => ("restored_from", restored.toJson)).toList)

/-- Reads a response. -/
def decoder : Json.Decoder PublishResponse :=
  (Json.Decoder.record "NodePublishVolumeResponse"
    (.more (.required "volume_id" .text)
    (.more (.required "target_path" .text)
    (.more (.required "size_bytes" .int64)
    (.more (.required "created" .bool)
    (.more (.optional "restored_from" RestoredSnapshot.decoder)
    .none)))))).map
  fun (volumeId, targetPath, size, created, restoredFrom, _) =>
    ⟨volumeId, targetPath, size, created, restoredFrom⟩

end PublishResponse

/-! ### Releasing -/

/-- The request to release a volume. -/
structure UnpublishRequest where
  volumeId : String
  targetPath : String
deriving DecidableEq, Inhabited

namespace UnpublishRequest

/-- A request inside JSON. -/
def toJson (request : UnpublishRequest) : Json :=
  .object [("volume_id", .text request.volumeId), ("target_path", .text request.targetPath)]

/-- Reads a request. -/
def decoder : Json.Decoder UnpublishRequest :=
  (Json.Decoder.record "NodeUnpublishVolumeRequest"
    (.more (.required "volume_id" .text)
    (.more (.required "target_path" .text)
    .none))).map
  fun (volumeId, targetPath, _) => ⟨volumeId, targetPath⟩

end UnpublishRequest

/-- How the backup to one destination went. -/
structure BackupStatus where
  repository : String
  success : Bool
  error : Option String
deriving DecidableEq, Inhabited

namespace BackupStatus

/-- A status inside JSON. -/
def toJson (status : BackupStatus) : Json :=
  .object ([("repository", .text status.repository), ("success", .bool status.success)] ++
    (status.error.map fun error => ("error", .text error)).toList)

/-- Reads a status. -/
def decoder : Json.Decoder BackupStatus :=
  (Json.Decoder.record "DestinationBackupStatus"
    (.more (.required "repository" .text)
    (.more (.required "success" .bool)
    (.more (.optional "error" .text)
    .none)))).map
  fun (repository, success, error, _) => ⟨repository, success, error⟩

end BackupStatus

/-- The answer to a request to release. Backups that failed are warnings. -/
structure UnpublishResponse where
  volumeId : String
  backupTime : String
  backups : List BackupStatus
  warnings : List String
deriving DecidableEq, Inhabited

namespace UnpublishResponse

/-- A response inside JSON. -/
def toJson (response : UnpublishResponse) : Json :=
  .object ([("volume_id", .text response.volumeId), ("backup_time", .text response.backupTime),
      ("backups", .list (response.backups.map BackupStatus.toJson))] ++
    (if response.warnings = [] then [] else [("warnings", .ofTexts response.warnings)]))

/-- Reads a response. -/
def decoder : Json.Decoder UnpublishResponse :=
  (Json.Decoder.record "NodeUnpublishVolumeResponse"
    (.more (.required "volume_id" .text)
    (.more (.required "backup_time" .text)
    (.more (.required "backups" BackupStatus.decoder.list)
    (.more (.withDefault "warnings" Json.Decoder.text.list [])
    .none))))).map
  fun (volumeId, backupTime, backups, warnings, _) => ⟨volumeId, backupTime, backups, warnings⟩

end UnpublishResponse

end NodeAgent.Rpc
