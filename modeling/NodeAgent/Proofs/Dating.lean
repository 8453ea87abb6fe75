/-
This file follows the time of a backup. It is the last whole second that is not after the beginning
of the release. Nothing of it is lost in the argument of the backup program or in a message, and
the arguments come in the order of the times. A release tells this one time to every destination
and reports it.
-/

import Mathlib.Data.String.Basic
import Mathlib.Order.Bounds.Defs
import NodeAgent.Proofs.Chronology
import NodeAgent.Proofs.Reporting
import NodeAgent.Proofs.Sighting

namespace NodeAgent

open Operation

namespace Timestamp

variable {moment first second : Instant}

/-! ### Whole seconds -/

@[simp] theorem seconds_wholeSecond (moment : Instant) :
    moment.wholeSecond.seconds = moment.seconds := by
  unfold Instant.wholeSecond Instant.ofUnix Instant.seconds
  rw [Int.add_zero]
  exact Int.mul_fdiv_cancel _ (by decide)

@[simp] theorem date_wholeSecond (moment : Instant) :
    moment.wholeSecond.date = moment.date := by
  unfold Instant.date
  rw [seconds_wholeSecond]

@[simp] theorem fraction_wholeSecond (moment : Instant) : moment.wholeSecond.fraction = 0 := by
  unfold Instant.wholeSecond Instant.ofUnix Instant.fraction
  rw [Int.add_zero, Int.mul_fmod_left]
  rfl

/-- The time of a backup is the last whole second that is not after it begins. -/
theorem isGreatest_ofInstant (moment : Instant) :
    IsGreatest {count : Int | Instant.second ∣ count ∧ count ≤ moment.nanoseconds}
      (ofInstant moment).instant.nanoseconds := by
  have floor : (ofInstant moment).instant.nanoseconds =
      moment.nanoseconds / 1000000000 * 1000000000 := by
    show moment.nanoseconds.fdiv Instant.second * Instant.second + 0 = _
    rw [Int.fdiv_eq_ediv_of_nonneg _ (by decide), Int.add_zero]
    rfl
  rw [floor]
  refine ⟨⟨Int.dvd_mul_left _ _, by omega⟩, ?_⟩
  rintro _ ⟨⟨seconds, rfl⟩, before⟩
  unfold Instant.second at before ⊢
  omega

theorem ofInstant_ofInstant (moment : Instant) :
    ofInstant (ofInstant moment).instant = ofInstant moment := by
  show Timestamp.mk (Instant.ofUnix moment.wholeSecond.seconds 0) = _
  rw [seconds_wholeSecond]
  rfl

theorem ofInstant_mono (order : first.nanoseconds ≤ second.nanoseconds) :
    (ofInstant first).instant.nanoseconds ≤ (ofInstant second).instant.nanoseconds := by
  obtain ⟨⟨whole, before⟩, -⟩ := isGreatest_ofInstant first
  exact (isGreatest_ofInstant second).2 ⟨whole, Int.le_trans before order⟩

/-! ### Texts -/

/-- The argument of the backup program is read in universal time as the time itself. -/
theorem read_argument (inYears : 0 ≤ moment.date.year ∧ moment.date.year ≤ 9999) :
    Instant.read ((ofInstant moment).argument ++ "Z") = .ok (ofInstant moment).instant := by
  rw [← date_wholeSecond] at inYears
  have read := Instant.read_ofList inYears.1 inYears.2 (.inr rfl) Instant.Scan.isUniversal_letter
  have whole : moment.wholeSecond.fractionText = [] := by
    unfold Instant.fractionText
    dsimp only
    rw [if_pos (fraction_wholeSecond moment)]
  rw [whole, List.append_nil, String.ofList_append] at read
  exact read

theorem read_text (inYears : 0 ≤ moment.date.year ∧ moment.date.year ≤ 9999) :
    Instant.read (ofInstant moment).text = .ok (ofInstant moment).instant := by
  rw [← date_wholeSecond] at inYears
  exact Instant.read_displayText inYears.1 inYears.2

/-- The arguments of the backup program come in the order of the times. -/
theorem argument_lt_argument_iff (inYears : 0 ≤ first.date.year ∧ first.date.year ≤ 9999)
    (otherInYears : 0 ≤ second.date.year ∧ second.date.year ≤ 9999) :
    (ofInstant first).argument < (ofInstant second).argument ↔
      (ofInstant first).instant.nanoseconds < (ofInstant second).instant.nanoseconds := by
  rw [← date_wholeSecond] at inYears otherInYears
  have order := Instant.text_lt_text_iff ' ' inYears otherInYears
  rw [seconds_wholeSecond, seconds_wholeSecond] at order
  unfold argument
  rw [String.lt_iff_toList_lt, String.toList_ofList, String.toList_ofList]
  refine order.trans ?_
  show _ ↔ first.seconds * Instant.second + 0 < second.seconds * Instant.second + 0
  unfold Instant.second
  omega

end Timestamp

/-! ### What the backup program is told -/

/-- The time that a command tells the backup program to record, where it is one that writes a
snapshot. -/
def Invocation.timeTold? (invocation : Invocation) : Option String :=
  match invocation.arguments with
  | ["backup", "--tag", _, "--host", _, "--time", time, _] =>
    if invocation.program = "restic" then some time else none
  | _ => none

/-- The time that the backup program is told by a question to the host. -/
def HostCall.timeTold? : HostCall → Option String
  | run invocation _ | start invocation => invocation.timeTold?
  | _ => none

/-- The times that the backup program was told, in order. -/
def timesTold (heard : List (Exchange host)) : List String :=
  heard.filterMap fun exchange => HostCall.timeTold? exchange.question

/-- The time that a question to a repository tells. -/
def RepositoryCall.timeTold? : RepositoryCall → Option String
  | backup _ _ _ time => some time.argument
  | _ => none

@[simp] theorem timesTold_append (first second : List (Exchange host)) :
    timesTold (first ++ second) = timesTold first ++ timesTold second :=
  List.filterMap_append

theorem HostCall.timeTold?_eq_none {call : HostCall}
    (other : call.Starts fun invocation => invocation.program ≠ "restic") :
    call.timeTold? = none := by
  have silent {invocation : Invocation} (other : invocation.program ≠ "restic") :
      invocation.timeTold? = none := by
    unfold Invocation.timeTold?
    split
    · exact if_neg other
    · rfl
  cases call with
  | run invocation limit | start invocation => exact silent other
  | poll | kill | reap | pause | makeDirectories | isThere => rfl

namespace Tools

theorem Volumes.Used.program_ne {call : VolumeCall} {invocation : Invocation}
    (used : Volumes.Used call invocation) : invocation.program ≠ "restic" := by
  cases used <;> exact of_decide_eq_false rfl

namespace Toolbox

variable {toolbox : Toolbox} {servers last : Servers} {exchanges : List (Exchange backends)}
  {heard : List (Exchange NodeAgent.host)}

/-- A call of the volume tools tells the backup program nothing. -/
theorem timesTold_of_volume {call : VolumeCall} {answered : Except Failure call.Result × Servers}
    (held : Dialogue.Held (toolbox.answer (.volume call) servers) heard answered) :
    timesTold heard = [] := by
  have asks : Dialogue.Asks (HostCall.Starts fun invocation => invocation.program ≠ "restic")
      (toolbox.answer (.volume call) servers) :=
    Dialogue.Asks.bind ((Volumes.starts_used toolbox.volumeLimit call).mono
      fun _ used => used.program_ne) fun _ => trivial
  exact List.filterMap_eq_nil_iff.2 fun exchange member =>
    HostCall.timeTold?_eq_none (asks.of_held held exchange member)

/-- A backup tells its time. -/
theorem timesTold_of_backup {destination : Destination} {volume : String} {source : Path}
    {time : Timestamp} {ended : BackupEnd × Servers}
    (held : Dialogue.Held
      (toolbox.answer (.repository (.backup destination volume source time)) servers) heard ended) :
    timesTold heard = [time.argument] := by
  obtain ⟨asking, rest, outcome, rfl, asked, done⟩ := Dialogue.held_bind_iff.1 held
  change Dialogue.Held (ExceptT.run (HostTask.run _ _)) asking outcome at asked
  obtain ⟨_, rfl, rfl⟩ := held_run_iff.1 asked
  cases done
  rfl

/-- The backup program is told the times of the backups that are asked for. -/
theorem Served.timesTold_eq {name : String}
    (served : toolbox.Served servers exchanges heard last)
    (each : ∀ exchange ∈ exchanges, Call.IsMounting name exchange.question ∨
      ∃ destination source time,
        exchange.question = Call.repository (.backup destination name source time)) :
    timesTold heard = (backupsOf exchanges).filterMap RepositoryCall.timeTold? := by
  induction served with
  | nil servers => rfl
  | @cons servers middle last rest first second call answer held served inductionHypothesis =>
    obtain ⟨here, later⟩ := List.forall_mem_cons.1 each
    rw [timesTold_append, inductionHypothesis later]
    rcases here with mounting | ⟨destination, source, time, asked⟩
    · cases call with
      | volume call =>
        rw [timesTold_of_volume held]
        rfl
      | repository call => exact absurd mounting id
    · obtain rfl : call = .repository (.backup destination name source time) := asked
      rw [timesTold_of_backup held]
      rfl

end Toolbox

end Tools

/-! ### Releases -/

namespace Agent

variable {settings : Settings} {now : Instant} {volume : String} {target : Path}
  {agent after : Agent} {exchanges : List (Exchange backends)} {outcome : Except Failure Released}

/-- What a release asks of the repositories where it comes to the backups. -/
def backupsDue (settings : Settings) (now : Instant) (volume : String) : List RepositoryCall :=
  settings.destinations.map (.backup · volume (settings.volumePoint volume) (.ofInstant now))

/-- All backups of a release are asked for with its time, or none is. One that comes out well
reports this time, and it has asked for all of them unless it says why it did not. -/
theorem Releases.backupsOf_eq
    (course : Releases settings now volume target agent exchanges outcome after) :
    (backupsOf exchanges = [] ∨ backupsOf exchanges = backupsDue settings now volume) ∧
      ∀ released, outcome = .ok released → released.report.time = .ofInstant now ∧
        backupsOf exchanges =
          if released.skipped.isSome then [] else backupsDue settings now volume := by
  cases course with
  | refused => exact ⟨.inl rfl, nofun⟩
  | unlisted _ looked | missing _ looked => exact ⟨.inl (Pool.backupsOf_of_find looked), nofun⟩
  | @departed _ current _ _ _ _ _ looked departs =>
    rw [backupsOf_append, Pool.backupsOf_of_find looked, List.nil_append]
    generalize agent.skipReason? current volume = reason at departs
    cases departs with
    | stuck left => exact ⟨.inl (Pool.backupsOf_of_ensureUnmounted left), nofun⟩
    | skipped left =>
      have none := Pool.backupsOf_of_ensureUnmounted left
      refine ⟨.inl none, ?_⟩
      rintro _ ⟨⟩
      exact ⟨rfl, none⟩
    | unstaged left staged =>
      rw [backupsOf_append, Pool.backupsOf_of_ensureUnmounted left,
        Pool.backupsOf_of_ensureMounted staged]
      exact ⟨.inl rfl, nofun⟩
    | @backedUp _ _ _ _ _ _ _ report _ ended _ left staged backed freed =>
      have all := Backup.backupsOf_of_backupAll backed
      obtain ⟨-, rfl⟩ := Backup.held_backupAll_iff.1 backed
      rw [backupsOf_append, backupsOf_append, backupsOf_append,
        Pool.backupsOf_of_ensureUnmounted left, Pool.backupsOf_of_ensureMounted staged,
        Pool.backupsOf_of_ensureUnmounted freed, List.append_nil, all]
      refine ⟨.inr rfl, ?_⟩
      cases ended with
      | error failure => exact nofun
      | ok found =>
        rintro _ ⟨⟩
        exact ⟨rfl, rfl⟩

theorem timesTold_backupsDue (settings : Settings) (now : Instant) (volume : String) :
    (backupsDue settings now volume).filterMap RepositoryCall.timeTold? =
      settings.destinations.map fun _ => (Timestamp.ofInstant now).argument := by
  unfold backupsDue
  rw [List.filterMap_map]
  exact congrFun List.filterMap_eq_map _

end Agent

/-- Answers a message with the tools. -/
def Rpc.answerWith (toolbox : Tools.Toolbox) (servers : Tools.Servers) (settings : Settings)
    (now : Instant) (message : Message) (agent : Agent) :
    Dialogue host ((Message × Agent) × Tools.Servers) :=
  (@Dialogue.answerBy backends (Message × Agent) (StateT Tools.Servers (Dialogue host)) _
    toolbox.answer ((answer settings now message).run agent)).run servers

theorem Rpc.member?_backup_time (request : Request) (released : Released) :
    (payloadOf request (.released released)).member? "backup_time" =
      some (.text released.report.time.text) := by
  rw [payloadOf_released]
  rfl

section

variable {toolbox : Tools.Toolbox} {servers last : Tools.Servers} {settings : Settings}
  {now : Instant} {message reply : Rpc.Message} {agent after : Agent} {volume : String}
  {target : Path} {heard : List (Exchange host)}

/-- However the host answers, a message that asks for a release tells the time of the release to
every destination or to none. An answer that is no refusal reports this time, and the destinations
were told it unless the volume was not to be backed up. -/
theorem Rpc.timesTold_of_release
    (understood : understand now message = .ok (.unpublish now volume target))
    (held : Dialogue.Held (answerWith toolbox servers settings now message agent) heard
      ((reply, after), last)) :
    (timesTold heard = [] ∨
        timesTold heard = settings.destinations.map fun _ => (Timestamp.ofInstant now).argument) ∧
      ∀ payload, reply.payload = some payload →
        payload.member? "backup_time" = some (.text (Timestamp.ofInstant now).text) ∧
        ∃ released, payload = payloadOf (.unpublish now volume target) (.released released) ∧
          timesTold heard = if released.skipped.isSome then []
            else settings.destinations.map fun _ => (Timestamp.ofInstant now).argument := by
  obtain ⟨exchanges, answering, served⟩ := Tools.Toolbox.held_answerBy_iff.1 held
  obtain ⟨outcome, conversation, rfl⟩ :=
    (answers_iff_of_understood understood).1 (answers_iff.1 answering)
  obtain ⟨given, releasing, rfl⟩ := Request.converses_reply_iff.1 conversation
  obtain ⟨asked, well⟩ := (Agent.releases_of_converses releasing).backupsOf_eq
  have told := served.timesTold_eq
    (Agent.Releases.mem_cases (Agent.releases_of_converses releasing))
  constructor
  · rw [told]
    rcases asked with none | all
    · exact .inl (by rw [none]; rfl)
    · exact .inr (by rw [all, Agent.timesTold_backupsDue])
  · intro payload answered
    cases given with
    | error failure => cases answered
    | ok released =>
      obtain ⟨time, backups⟩ := well released rfl
      cases answered
      refine ⟨?_, released, rfl, ?_⟩
      · rw [member?_backup_time, time]
      · rw [told, backups, ← Agent.timesTold_backupsDue settings now volume]
        cases released.skipped <;> rfl

end

/-- The time of a backup that begins in a year of four digits. It is the last whole second that is
not after the beginning. The argument of the backup program, read in universal time, and the text
in a message are both this time, and arguments are in the order of their times. Every destination
that a release asks for a backup is told this time, and the answer to the request reports it. -/
theorem backup_time_kept {moment : Instant}
    (inYears : 0 ≤ moment.date.year ∧ moment.date.year ≤ 9999) :
    IsGreatest {count : Int | Instant.second ∣ count ∧ count ≤ moment.nanoseconds}
        (Timestamp.ofInstant moment).instant.nanoseconds ∧
      Timestamp.ofInstant (Timestamp.ofInstant moment).instant = .ofInstant moment ∧
      (∀ later : Instant, moment.nanoseconds ≤ later.nanoseconds →
        (Timestamp.ofInstant moment).instant.nanoseconds ≤
          (Timestamp.ofInstant later).instant.nanoseconds) ∧
      Instant.read ((Timestamp.ofInstant moment).argument ++ "Z") =
        .ok (Timestamp.ofInstant moment).instant ∧
      Instant.read (Timestamp.ofInstant moment).text =
        .ok (Timestamp.ofInstant moment).instant ∧
      (∀ other : Instant, 0 ≤ other.date.year ∧ other.date.year ≤ 9999 →
        ((Timestamp.ofInstant moment).argument < (Timestamp.ofInstant other).argument ↔
          (Timestamp.ofInstant moment).instant.nanoseconds <
            (Timestamp.ofInstant other).instant.nanoseconds)) ∧
      ∀ (toolbox : Tools.Toolbox) (servers last : Tools.Servers) (settings : Settings)
        (message reply : Rpc.Message) (agent after : Agent) (volume : String) (target : Path)
        (heard : List (Exchange host)),
        Rpc.understand moment message = .ok (.unpublish moment volume target) →
        Dialogue.Held (Rpc.answerWith toolbox servers settings moment message agent) heard
          ((reply, after), last) →
        (timesTold heard = [] ∨ timesTold heard =
          settings.destinations.map fun _ => (Timestamp.ofInstant moment).argument) ∧
        ∀ payload, reply.payload = some payload →
          payload.member? "backup_time" = some (.text (Timestamp.ofInstant moment).text) ∧
          ∃ released,
            payload = Rpc.payloadOf (.unpublish moment volume target) (.released released) ∧
            timesTold heard = if released.skipped.isSome then []
              else settings.destinations.map fun _ => (Timestamp.ofInstant moment).argument :=
  ⟨Timestamp.isGreatest_ofInstant moment, Timestamp.ofInstant_ofInstant moment,
    fun _ => Timestamp.ofInstant_mono, Timestamp.read_argument inYears,
    Timestamp.read_text inYears, fun _ => Timestamp.argument_lt_argument_iff inYears,
    fun _ _ _ _ _ _ _ _ _ _ _ => Rpc.timesTold_of_release⟩

namespace Memory

/-! ### The last second before 1970 -/

/-- The last nanosecond before 1970. -/
def lastMoment : Instant := ⟨-1⟩

/-- What a host is asked to release the volume with backups to two destinations. -/
def releasingOne : Dialogue host ((Rpc.Message × Agent) × Tools.Servers) :=
  Rpc.answerWith ⟨1000, ⟨"node-a", 1000⟩⟩ .empty
    ⟨⟨"vg0", "pool"⟩, ⟨"/staging"⟩, ⟨1⟩, .onCreate, [⟨"repo-a", .empty⟩, ⟨"repo-b", .empty⟩]⟩
    lastMoment Reporting.smallMessage (.fresh .empty)

/-- A host on which the volume is mounted first, then at the staging path, and then not any more. -/
def releasingHost : ScriptedHost :=
  let elsewhere := writes "/mnt/a\n"
  let staged := writes "/staging/pg\n"
  .begin [listsOne, elsewhere, listsOne, elsewhere, elsewhere, writes "", listsOne, findsNothing,
    listsOne, findsNothing, findsNothing, writes "", listsOne, staged, writes "", writes "",
    listsOne, staged, staged, writes "", listsOne, findsNothing] []

/-- The time is rounded down, also before 1970, for the argument and for the answer. -/
theorem backup_time_kept_before_epoch :
    (Timestamp.ofInstant lastMoment).instant = ⟨-1000000000⟩ ∧
      Instant.read "1969-12-31 23:59:59Z" = .ok ⟨-1000000000⟩ ∧
      ∃ heard reply after last, Dialogue.Held releasingOne heard ((reply, after), last) ∧
        timesTold heard = ["1969-12-31 23:59:59", "1969-12-31 23:59:59"] ∧
        reply.payload.bind (·.member? "backup_time") =
          some (.text "1969-12-31T23:59:59+00:00") := by
  obtain ⟨-, -, -, read, -, -, release⟩ := @backup_time_kept lastMoment (by decide)
  have argument : (Timestamp.ofInstant lastMoment).argument = "1969-12-31 23:59:59" := by
    decide +kernel
  have text : (Timestamp.ofInstant lastMoment).text = "1969-12-31T23:59:59+00:00" := by
    decide +kernel
  have rounded : (Timestamp.ofInstant lastMoment).instant = ⟨-1000000000⟩ := by decide
  have written : "1969-12-31 23:59:59" ++ "Z" = "1969-12-31 23:59:59Z" := by decide
  rw [argument, rounded, written] at read
  refine ⟨rounded, read, ?_⟩
  obtain ⟨heard, held, started⟩ := releasingHost.held_and_started
    (fun invocation => invocation.timeTold? = none) releasingOne
  have paid : (releasingHost.hold releasingOne).1.1.1.payload.isSome = true := by decide +kernel
  generalize (releasingHost.hold releasingOne).1 = all at held paid
  obtain ⟨⟨reply, after⟩, last⟩ := all
  obtain ⟨payload, replied⟩ := Option.isSome_iff_exists.1 paid
  obtain ⟨told, answered⟩ := release _ _ _ _ _ _ _ _ "pg" ⟨"/mnt/a"⟩ heard rfl held
  rw [argument] at told
  refine ⟨heard, reply, after, last, held, told.resolve_left fun nothing => ?_, ?_⟩
  · have silent : ∀ one ∈ (releasingHost.hold releasingOne).2.started, one.timeTold? = none := by
      refine started nofun fun ⟨question, _⟩ member => ?_
      have untold := List.filterMap_eq_nil_iff.1 nothing _ member
      cases question with
      | run | start => exact untold
      | poll | kill | reap | pause | makeDirectories | isThere => trivial
    exact absurd silent (by decide +kernel)
  · show reply.payload.bind _ = _
    rw [replied, ← text]
    exact (answered payload replied).1

end Memory

end NodeAgent
