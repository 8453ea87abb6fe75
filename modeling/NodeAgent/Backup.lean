/-
This file backs a volume up to all destinations. All of them get the same time, none waits for the
success of another, and the report has one result for each in the order of the configuration.
-/

import NodeAgent.Backend

namespace NodeAgent

/-- How the backup to one destination went. -/
structure BackupResult where
  repository : String
  error : Option String
deriving DecidableEq, Inhabited

/-- How the backups of one release went. -/
structure BackupReport where
  time : Timestamp
  results : List BackupResult
deriving DecidableEq, Inhabited

namespace BackupResult

/-- Whether the backup was written. -/
def succeeded (result : BackupResult) : Bool := result.error.isNone

/-- A result inside JSON. -/
def toJson (result : BackupResult) : Json :=
  .object [("repository", .text result.repository), ("error", .ofText? result.error)]

end BackupResult

namespace BackupReport

/-- The results of backups that were written. -/
def succeeded (report : BackupReport) : List BackupResult :=
  report.results.filter (·.succeeded)

/-- The results of backups that failed. -/
def failed (report : BackupReport) : List BackupResult :=
  report.results.filter (!·.succeeded)

/-- Whether some but not all backups failed. -/
def isPartialFailure (report : BackupReport) : Bool :=
  0 < report.failed.length && report.failed.length < report.results.length

/-- Whether there were backups and all of them failed. -/
def allFailed (report : BackupReport) : Bool :=
  !report.results.isEmpty && report.failed.length = report.results.length

/-- One warning for each backup that failed. -/
def warnings (report : BackupReport) : List String :=
  report.failed.map fun result =>
    s!"backup to {result.repository} failed: " ++ result.error.getD "unknown error"

/-- A report inside JSON. -/
def toJson (report : BackupReport) : Json :=
  .object [("timestamp", report.time.toJson),
    ("results", .list (report.results.map BackupResult.toJson))]

end BackupReport

namespace Backup

/-- The result of a backup that ended. A backup that was cut off is an error of the agent. -/
def resultOf (destination : Destination) (ended : BackupEnd) : BackupResult :=
  let outcome : Except Failure Unit := match ended with
    | .finished outcome => outcome
    | .aborted reason => .error (.internal s!"backup task failed: {reason}")
  match outcome with
  | .ok () => ⟨destination.repository, none⟩
  | .error failure => ⟨destination.repository, some failure.message⟩

/-- Backs up to destinations one after another. -/
def backupEach (volume : String) (source : Path) (time : Timestamp) :
    List Destination → Dialogue backends (List BackupResult)
  | [] => .done []
  | destination :: rest =>
    @Dialogue.ask backends _ (.repository (.backup destination volume source time)) fun ended => do
      let results ← backupEach volume source time rest
      return resultOf destination ended :: results

/-- Backs a volume up to all destinations. -/
def backupAll (volume : String) (source : Path) (destinations : List Destination)
    (time : Timestamp) : Dialogue backends BackupReport := do
  return ⟨time, ← backupEach volume source time destinations⟩

end Backup

end NodeAgent
