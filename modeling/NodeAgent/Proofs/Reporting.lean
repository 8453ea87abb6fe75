/-
This file says what the caller of a release learns of the backups. A report is made of how each of
them ended, but it is handed back only where the unmount after the backups comes out well. Where
that unmount fails its failure is all that is handed back, and it is the same whatever became of the
backups.
-/

import Mathlib.Data.List.Forall2
import NodeAgent.Proofs.Answering
import NodeAgent.Proofs.Blaming
import NodeAgent.Proofs.Creation

namespace NodeAgent

open Operation

/-! ### Backups and how they ended -/

/-- What is reported of a backup, where the exchange is one. -/
def Exchange.backupResult? : Exchange backends → Option BackupResult
  | ⟨.repository (.backup destination _ _ _), ended⟩ => some (Backup.resultOf destination ended)
  | _ => none

/-- How the backups of a conversation ended, in order. -/
def backupResultsOf (exchanges : List (Exchange backends)) : List BackupResult :=
  exchanges.filterMap Exchange.backupResult?

/-- The repositories whose backup failed, in order. -/
def failedBackupsOf (exchanges : List (Exchange backends)) : List String :=
  ((backupResultsOf exchanges).filter (!·.succeeded)).map (·.repository)

/-- Two conversations in which the same was asked and answered, except that backups may have ended
in another way. -/
def SameButBackups : List (Exchange backends) → List (Exchange backends) → Prop :=
  List.Forall₂ fun one other =>
    one.question = other.question ∧ (one.question.backup? = none → one = other)

/-- What is handed back after a conversation tells which backups failed in it: it is never handed
back after another one, with the same answers to all but the backups, where one of them did not. -/
def TellsFailures {Given : Type} (hands : List (Exchange backends) → Given → Prop)
    (exchanges : List (Exchange backends)) (given : Given) : Prop :=
  ∀ others, SameButBackups exchanges others → hands others given →
    (failedBackupsOf exchanges).Sublist (failedBackupsOf others)

variable {exchanges others first second : List (Exchange backends)}

@[simp] theorem backupResultsOf_append (first second : List (Exchange backends)) :
    backupResultsOf (first ++ second) = backupResultsOf first ++ backupResultsOf second :=
  List.filterMap_append

theorem Exchange.backupResult?_eq_none {exchange : Exchange backends}
    (other : exchange.question.backup? = none) : exchange.backupResult? = none := by
  match exchange, other with
  | ⟨.volume _, _⟩, _ | ⟨.repository (.findNearest _ _ _), _⟩, _
  | ⟨.repository (.mountSnapshot _ _ _), _⟩, _
  | ⟨.repository (.unmountSnapshot _ _), _⟩, _ => rfl

theorem backupResultsOf_eq_nil (none : backupsOf exchanges = []) :
    backupResultsOf exchanges = [] := by
  refine List.filterMap_eq_nil_iff.2 fun exchange member => Exchange.backupResult?_eq_none ?_
  exact List.filterMap_eq_nil_iff.1 none _ (List.mem_map.2 ⟨exchange, member, rfl⟩)

/-- What was asked before and after the backups does not count. -/
theorem backupResultsOf_middle {early backing ending : List (Exchange backends)}
    (earlyNone : backupsOf early = []) (endingNone : backupsOf ending = []) :
    backupResultsOf (early ++ (backing ++ ending)) = backupResultsOf backing := by
  rw [backupResultsOf_append, backupResultsOf_append, backupResultsOf_eq_nil earlyNone,
    backupResultsOf_eq_nil endingNone, List.append_nil, List.nil_append]

theorem SameButBackups.refl (exchanges : List (Exchange backends)) :
    SameButBackups exchanges exchanges :=
  List.forall₂_same.2 fun _ _ => ⟨rfl, fun _ => rfl⟩

theorem SameButBackups.callsOf_eq (same : SameButBackups exchanges others) :
    callsOf exchanges = callsOf others := by
  induction same with
  | nil => rfl
  | cons head _ inductionHypothesis =>
    exact congrArg₂ List.cons head.1 inductionHypothesis

theorem SameButBackups.backupsOf_eq (same : SameButBackups exchanges others) :
    backupsOf exchanges = backupsOf others :=
  congrArg (List.filterMap Call.backup?) same.callsOf_eq

theorem sameButBackups_of_callsOf_eq (same : callsOf exchanges = callsOf others)
    (backups : ∀ exchange ∈ exchanges, exchange.question.backup? ≠ none) :
    SameButBackups exchanges others := by
  induction exchanges generalizing others with
  | nil =>
    cases others with
    | nil => exact .nil
    | cons other rest => cases same
  | cons exchange rest inductionHypothesis =>
    cases others with
    | nil => cases same
    | cons other further =>
      obtain ⟨head, tail⟩ := List.cons.inj same
      obtain ⟨backup, backups⟩ := List.forall_mem_cons.1 backups
      exact .cons ⟨head, fun none => absurd none backup⟩ (inductionHypothesis tail backups)

/-! ### The report is made of the ends of the backups -/

namespace Backup

variable {volume : String} {source : Path} {time : Timestamp} {destinations : List Destination}

theorem held_backupEach_iff {results : List BackupResult} :
    Dialogue.Held (backupEach volume source time destinations) exchanges results ↔
      callsOf exchanges = destinations.map (fun destination =>
          .repository (.backup destination volume source time)) ∧
        results = backupResultsOf exchanges := by
  induction destinations generalizing exchanges results with
  | nil =>
    refine held_done_iff.trans ⟨?_, ?_⟩
    · rintro ⟨rfl, rfl⟩
      exact ⟨rfl, rfl⟩
    · rintro ⟨none, rfl⟩
      obtain rfl := List.map_eq_nil_iff.1 none
      exact ⟨rfl, rfl⟩
  | cons destination rest inductionHypothesis =>
    constructor
    · intro held
      cases held with
      | ask ended others =>
        obtain ⟨following, ending, others, rfl, held, done⟩ := Dialogue.held_bind_iff.1 others
        obtain ⟨rfl, rfl⟩ := held_done_iff.1 done
        obtain ⟨asked, rfl⟩ := inductionHypothesis.1 held
        rw [List.append_nil]
        exact ⟨congrArg (_ :: ·) asked, rfl⟩
    · rintro ⟨asked, rfl⟩
      obtain ⟨⟨question, ended⟩, following, rfl, here, others⟩ := List.map_eq_cons_iff.1 asked
      obtain rfl : question = .repository (.backup destination volume source time) := here
      exact .ask ended (Dialogue.held_bind_iff.2 ⟨following, [], _, (List.append_nil _).symm,
        inductionHypothesis.2 ⟨others, rfl⟩, .done _⟩)

/-- The backups are asked for in order, and the report tells how each of them ended. -/
theorem held_backupAll_iff {report : BackupReport} :
    Dialogue.Held (backupAll volume source destinations time) exchanges report ↔
      callsOf exchanges = destinations.map (fun destination =>
          .repository (.backup destination volume source time)) ∧
        report = ⟨time, backupResultsOf exchanges⟩ := by
  constructor
  · intro held
    obtain ⟨asking, ending, results, rfl, each, done⟩ := Dialogue.held_bind_iff.1 held
    obtain ⟨rfl, rfl⟩ := held_done_iff.1 done
    obtain ⟨asked, rfl⟩ := held_backupEach_iff.1 each
    rw [List.append_nil]
    exact ⟨asked, rfl⟩
  · rintro ⟨asked, rfl⟩
    exact Dialogue.held_bind_iff.2 ⟨exchanges, [], _, (List.append_nil _).symm,
      held_backupEach_iff.2 ⟨asked, rfl⟩, .done _⟩

/-- Backups to all destinations that come out well. -/
def wellBackedUp (volume : String) (source : Path) (time : Timestamp)
    (destinations : List Destination) : List (Exchange backends) :=
  destinations.map fun destination =>
    .ofRepository (.backup destination volume source time) (.finished (.ok ()))

theorem callsOf_wellBackedUp (volume : String) (source : Path) (time : Timestamp)
    (destinations : List Destination) :
    callsOf (wellBackedUp volume source time destinations) =
      destinations.map fun destination => .repository (.backup destination volume source time) :=
  List.map_map

theorem failedBackupsOf_wellBackedUp (volume : String) (source : Path) (time : Timestamp)
    (destinations : List Destination) :
    failedBackupsOf (wellBackedUp volume source time destinations) = [] := by
  induction destinations with
  | nil => rfl
  | cons destination rest inductionHypothesis => exact inductionHypothesis

end Backup

/-! ### The parts of a release that asks for backups -/

namespace Agent

variable {settings : Settings} {now : Instant} {volume : String} {target : Path}
  {agent after : Agent} {outcome : Except Failure Released}

/-- What a release hands back after its backups: the report of them, or the failure of the unmount
that follows. -/
def reported (now : Instant) (results : List BackupResult) (freed : Except Failure Volume) :
    Except Failure Released :=
  freed.map fun _ => ⟨⟨.ofInstant now, results⟩, none⟩

/-- A release that asks for backups asks every destination for one and ends with an unmount. What
came before and what comes after do not depend on how the backups end. -/
theorem exists_parts_of_backups
    (conversation : Converses (unpublish settings now volume target) agent exchanges outcome after)
    (asked : backupsOf exchanges ≠ []) :
    ∃ early backing ending final freed last,
      exchanges = early ++ (backing ++ ending) ∧ backupsOf early = [] ∧ backupsOf ending = [] ∧
      callsOf backing = settings.destinations.map (fun destination =>
        .repository (.backup destination volume (settings.volumePoint volume) (.ofInstant now))) ∧
      Converses (Pool.ensureUnmounted settings.pool volume) final ending freed last ∧
      outcome = reported now (backupResultsOf backing) freed ∧
      ∀ others, callsOf others = callsOf backing → ∃ left,
        Converses (unpublish settings now volume target) agent (early ++ (others ++ ending))
          (reported now (backupResultsOf others) freed) left := by
  cases releases_of_converses conversation with
  | refused => exact absurd rfl asked
  | unlisted _ looked | missing _ looked =>
    exact absurd (Pool.backupsOf_of_find looked) asked
  | @departed looking current roster _ _ last valid looked departs =>
    generalize skips : agent.skipReason? current volume = reason at departs
    have lookingNone := Pool.backupsOf_of_find looked
    cases departs with
    | stuck left | skipped left =>
      rw [backupsOf_append, lookingNone, Pool.backupsOf_of_ensureUnmounted left] at asked
      exact absurd rfl asked
    | unstaged left staged =>
      rw [backupsOf_append, backupsOf_append, lookingNone, Pool.backupsOf_of_ensureUnmounted left,
        Pool.backupsOf_of_ensureMounted staged] at asked
      exact absurd rfl asked
    | @backedUp leaving _ _ staging _ final backing report ending freed _ left staged backed
        unmounted =>
      obtain ⟨questions, rfl⟩ := Backup.held_backupAll_iff.1 backed
      refine ⟨looking ++ (leaving ++ staging), backing, ending, final, freed, last, ?_, ?_,
        Pool.backupsOf_of_ensureUnmounted unmounted, questions, unmounted, rfl, ?_⟩
      · simp only [List.append_assoc]
      · rw [backupsOf_append, backupsOf_append, lookingNone,
          Pool.backupsOf_of_ensureUnmounted left, Pool.backupsOf_of_ensureMounted staged]
        rfl
      · intro others same
        have again := Backup.held_backupAll_iff.2 ⟨same.trans questions, rfl⟩
        have departs : Departs settings now volume roster (agent.skipReason? current volume)
            (leaving ++ (staging ++ (others ++ ending)))
            (reported now (backupResultsOf others) freed) last := by
          rw [skips]
          exact .backedUp left staged again unmounted
        rw [List.append_assoc, List.append_assoc]
        exact ⟨_, converses_of_releases (.departed valid looked departs)⟩

/-! ### What is handed back -/

/-- A report that is handed back has how every backup ended. -/
theorem results_of_released {released : Released}
    (conversation : Converses (unpublish settings now volume target) agent exchanges (.ok released)
      after)
    (asked : backupsOf exchanges ≠ []) :
    released.report.results = backupResultsOf exchanges := by
  obtain ⟨early, backing, ending, final, freed, last, rfl, earlyNone, endingNone, _, _, handed,
    _⟩ := exists_parts_of_backups conversation asked
  rw [backupResultsOf_middle earlyNone endingNone]
  cases freed with
  | error failure => cases handed
  | ok found =>
    cases handed
    rfl

/-- What is seen of an outcome tells the failed backups exactly where the outcome is good or there
are none, as long as the results of the backups can be read off it. -/
theorem tellsFailures_iff {Given : Type} (see : Except Failure Released → Given)
    {hands : List (Exchange backends) → Given → Prop}
    (seen : ∀ {heard given}, hands heard given ↔ ∃ outcome last,
      Converses (unpublish settings now volume target) agent heard outcome last ∧
        given = see outcome)
    (legible : ∀ {released outcome}, see (.ok released) = see outcome →
      ∃ other, outcome = .ok other ∧ other.report.results = released.report.results)
    (conversation : Converses (unpublish settings now volume target) agent exchanges outcome after)
    (asked : backupsOf exchanges ≠ []) :
    TellsFailures hands exchanges (see outcome) ↔
      outcome.isOk = true ∨ failedBackupsOf exchanges = [] := by
  constructor
  · intro tells
    obtain ⟨early, backing, ending, final, freed, last, rfl, earlyNone, endingNone, questions, _,
      rfl, again⟩ := exists_parts_of_backups conversation asked
    cases freed with
    | ok found => exact Or.inl rfl
    | error failure =>
      right
      -- The same failure is handed back where all backups come out well.
      let well := Backup.wellBackedUp volume (settings.volumePoint volume) (.ofInstant now)
        settings.destinations
      have same : callsOf well = callsOf backing :=
        (Backup.callsOf_wellBackedUp ..).trans questions.symm
      have backups : ∀ exchange ∈ backing, exchange.question.backup? ≠ none := by
        intro exchange member
        obtain ⟨destination, asks⟩ := exists_destination_of_callsOf questions exchange member
        rw [asks]
        exact nofun
      obtain ⟨left, other⟩ := again well same
      have told := tells (early ++ (well ++ ending))
        (List.rel_append (SameButBackups.refl early) (List.rel_append
          (sameButBackups_of_callsOf_eq same.symm backups) (SameButBackups.refl ending)))
        (seen.2 ⟨_, left, other, rfl⟩)
      have none : failedBackupsOf (early ++ (well ++ ending)) = [] := by
        unfold failedBackupsOf
        rw [backupResultsOf_middle earlyNone endingNone]
        exact Backup.failedBackupsOf_wellBackedUp ..
      rw [none] at told
      exact List.sublist_nil.1 told
  · rintro (well | none)
    · intro others same handed
      cases outcome with
      | error failure => cases well
      | ok released =>
        obtain ⟨outcome, last, other, alike⟩ := seen.1 handed
        obtain ⟨handedBack, rfl, results⟩ := legible alike
        have askedToo : backupsOf others ≠ [] := same.backupsOf_eq ▸ asked
        have equal : failedBackupsOf exchanges = failedBackupsOf others := by
          unfold failedBackupsOf
          rw [← results_of_released conversation asked, ← results,
            results_of_released other askedToo]
        rw [equal]
    · intro others _ _
      rw [none]
      exact List.nil_sublist _

end Agent

/-- The results of the backups can be read off the answer to a release. -/
theorem Rpc.member?_backups (request : Request) (released : Released) :
    (payloadOf request (.released released)).member? "backups" =
      some (.list (released.report.results.map resultJson)) := by
  rw [payloadOf_released]
  rfl

theorem Rpc.resultJson_injective : Function.Injective resultJson := by
  rintro ⟨repository, error⟩ ⟨other, otherError⟩ same
  unfold resultJson at same
  cases error <;> cases otherError <;> simp_all

theorem Rpc.legible_conclude {id : String} {request : Request} {released : Released}
    {outcome : Except Failure Released}
    (same : conclude id request ((Except.ok released).map .released) =
      conclude id request (outcome.map .released)) :
    ∃ other, outcome = .ok other ∧ other.report.results = released.report.results := by
  have payloads := congrArg Message.payload same
  cases outcome with
  | error failure => cases payloads
  | ok other =>
    have told : payloadOf request (.released released) = payloadOf request (.released other) :=
      Option.some.inj payloads
    have lists := congrArg (Json.member? · "backups") told
    rw [member?_backups, member?_backups] at lists
    have equal := Json.list.inj (Option.some.inj lists)
    exact ⟨other, rfl, (List.map_injective_iff.2 resultJson_injective equal).symm⟩

variable {settings : Settings} {now : Instant} {volume : String} {target : Path}
  {agent after : Agent} {outcome : Except Failure Released}

theorem Agent.isOk_reported (results : List BackupResult) (freed : Except Failure Volume) :
    (reported now results freed).isOk = freed.isOk := by
  cases freed <;> rfl

/-- Whether the caller learns which backups failed. A release that asks for backups asks every
destination for one and then unmounts the volume. Where that unmount comes out well, the outcome has
the result of every backup in order, and so has the answer to the message that asked for the
release. Where it fails, its failure is all that is handed back, so that neither the outcome nor the
answer tells of a backup that failed. -/
theorem failed_backups_told_iff
    (conversation : Converses (Agent.unpublish settings now volume target) agent exchanges outcome
      after)
    (asked : backupsOf exchanges ≠ []) :
    ∃ early backing ending final freed last,
      exchanges = early ++ (backing ++ ending) ∧
      callsOf backing = settings.destinations.map (fun destination =>
        .repository (.backup destination volume (settings.volumePoint volume) (.ofInstant now))) ∧
      Converses (Pool.ensureUnmounted settings.pool volume) final ending freed last ∧
      outcome = freed.map (fun _ => ⟨⟨.ofInstant now, backupResultsOf exchanges⟩, none⟩) ∧
      (TellsFailures (fun heard handed => ∃ last,
          Converses (Agent.unpublish settings now volume target) agent heard handed last)
        exchanges outcome ↔ freed.isOk = true ∨ failedBackupsOf exchanges = []) ∧
      ∀ message : Rpc.Message,
        Rpc.understand now message = .ok (.unpublish now volume target) →
        ∃ reply, Rpc.Answers settings now message agent exchanges reply after ∧
          (TellsFailures (fun heard reply => ∃ last,
              Rpc.Answers settings now message agent heard reply last)
            exchanges reply ↔ freed.isOk = true ∨ failedBackupsOf exchanges = []) ∧
          (freed.isOk = true → reply.payload.bind (·.member? "backups") =
            some (.list ((backupResultsOf exchanges).map Rpc.resultJson))) ∧
          ∀ failure, freed = .error failure → reply = .refuse message.id (.ofFailure failure) := by
  obtain ⟨early, backing, ending, final, freed, last, split, earlyNone, endingNone, questions,
    unmounted, handed, _⟩ := Agent.exists_parts_of_backups conversation asked
  have results : backupResultsOf exchanges = backupResultsOf backing := by
    rw [split, backupResultsOf_middle earlyNone endingNone]
  rw [← results] at handed
  have good : outcome.isOk = freed.isOk := by
    rw [handed, Agent.isOk_reported]
  refine ⟨early, backing, ending, final, freed, last, split, questions, unmounted, handed, ?_, ?_⟩
  · rw [← good]
    exact Agent.tellsFailures_iff id
      ⟨fun ⟨left, held⟩ => ⟨_, left, held, rfl⟩, fun ⟨_, left, held, same⟩ => ⟨left, same ▸ held⟩⟩
      (fun same => ⟨_, same.symm, rfl⟩) conversation asked
  intro message understood
  refine ⟨Rpc.conclude message.id (.unpublish now volume target) (outcome.map .released),
    .concluded understood (Request.converses_reply_iff.2 ⟨outcome, conversation, rfl⟩), ?_, ?_, ?_⟩
  · rw [← good]
    refine Agent.tellsFailures_iff (fun outcome =>
        Rpc.conclude message.id (.unpublish now volume target) (outcome.map .released))
      ?_ Rpc.legible_conclude conversation asked
    intro heard given
    simp only [Rpc.answers_iff_of_understood understood]
    constructor
    · rintro ⟨left, _, carried, rfl⟩
      obtain ⟨outcome, held, rfl⟩ := Request.converses_reply_iff.1 carried
      exact ⟨outcome, left, held, rfl⟩
    · rintro ⟨outcome, left, held, rfl⟩
      exact ⟨left, _, Request.converses_reply_iff.2 ⟨outcome, held, rfl⟩, rfl⟩
  · intro well
    cases freed with
    | error failure => cases well
    | ok found =>
      rw [handed]
      exact Rpc.member?_backups ..
  · rintro failure rfl
    rw [handed]
    rfl

/-! ### A release whose one backup fails -/

namespace Reporting

/-- Where the volume of the small setting is backed up. -/
def smallPoint : Path := (Memory.smallSettings .onCreate).volumePoint "pg"

/-- A release of the volume. -/
def smallRelease : Operation Agent Released :=
  Agent.unpublish (Memory.smallSettings .onCreate) Memory.smallNow "pg" ⟨"/mnt/a"⟩

/-- The message that asks for it. -/
def smallMessage : Rpc.Message :=
  .request "r-1" Rpc.unpublishMethod
    (.object [("volume_id", .text "pg"), ("target_path", .text "/mnt/a")])

/-- The exchanges of a release that carries its volume to the staging path. -/
def staged : List (Exchange backends) :=
  [.ofVolume (.list ⟨"vg0", "thinpool"⟩) (.ok [listedAt (some ⟨"/mnt/a"⟩)]),
    .ofVolume (.list ⟨"vg0", "thinpool"⟩) (.ok [listedAt (some ⟨"/mnt/a"⟩)]),
    .ofVolume (.queryMount ⟨"/dev/vg0/pg"⟩) (.ok (some ⟨"/mnt/a"⟩)),
    .ofVolume (.unmount ⟨"/dev/vg0/pg"⟩) (.ok ()),
    .ofVolume (.list ⟨"vg0", "thinpool"⟩) (.ok [listedAt none]),
    .ofVolume (.list ⟨"vg0", "thinpool"⟩) (.ok [listedAt none]),
    .ofVolume (.queryMount ⟨"/dev/vg0/pg"⟩) (.ok none),
    .ofVolume (.mount ⟨"/dev/vg0/pg"⟩ smallPoint) (.ok ()),
    .ofVolume (.list ⟨"vg0", "thinpool"⟩) (.ok [listedAt (some smallPoint)])]

/-- The one backup. -/
def backup (ended : BackupEnd) : Exchange backends :=
  .ofRepository (.backup ⟨"repo-a", .empty⟩ "pg" smallPoint (.ofInstant Memory.smallNow)) ended

/-- A backup that fails. -/
def refused : BackupEnd := .finished (.error (.backend "restic" (some 1) "unreachable"))

/-- The failure of an unmount. -/
def busy : Failure := .backend "umount" (some 32) "busy"

/-- The unmount at the end, up to its answer. -/
def freeing (answer : Except Failure Unit) : List (Exchange backends) :=
  [.ofVolume (.list ⟨"vg0", "thinpool"⟩) (.ok [listedAt (some smallPoint)]),
    .ofVolume (.queryMount ⟨"/dev/vg0/pg"⟩) (.ok (some smallPoint)),
    .ofVolume (.unmount ⟨"/dev/vg0/pg"⟩) answer]

/-- The listing after it. -/
def freed : Exchange backends := .ofVolume (.list ⟨"vg0", "thinpool"⟩) (.ok [listedAt none])

theorem understood_smallMessage :
    Rpc.understand Memory.smallNow smallMessage =
      .ok (.unpublish Memory.smallNow "pg" ⟨"/mnt/a"⟩) := by
  rfl

theorem exists_after_of_follow {exchanges : List (Exchange backends)} {failure : Failure}
    (followed : ((smallRelease.run (.fresh .empty)).follow exchanges).bind
      (fun ended => failureOf? ended.1) = some failure) :
    ∃ after, Converses smallRelease (.fresh .empty) exchanges (.error failure) after := by
  obtain ⟨⟨outcome, after⟩, held, failed⟩ := Option.bind_eq_some_iff.1 followed
  cases outcome with
  | ok released => cases failed
  | error failure =>
    cases failed
    exact ⟨after, Dialogue.follow_eq_some_iff.1 held⟩

/-- A backup that failed is told where the unmount after it comes out well. -/
theorem failed_backup_told :
    ∃ released after reply,
      Converses smallRelease (.fresh .empty)
        (staged ++ backup refused :: (freeing (.ok ()) ++ [freed])) (.ok released) after ∧
      released.report.results =
        [⟨"repo-a", some "后端命令失败: `restic` (status: 1): unreachable"⟩] ∧
      Rpc.Answers (Memory.smallSettings .onCreate) Memory.smallNow smallMessage (.fresh .empty)
        (staged ++ backup refused :: (freeing (.ok ()) ++ [freed])) reply after ∧
      TellsFailures (fun heard reply => ∃ last,
          Rpc.Answers (Memory.smallSettings .onCreate) Memory.smallNow smallMessage (.fresh .empty)
            heard reply last)
        (staged ++ backup refused :: (freeing (.ok ()) ++ [freed])) reply := by
  have followed : (((smallRelease.run (.fresh .empty)).follow
      (staged ++ backup refused :: (freeing (.ok ()) ++ [freed]))).map
        fun ended => ended.1.isOk) = some true := by decide +kernel
  obtain ⟨⟨outcome, after⟩, held, well⟩ := Option.map_eq_some_iff.1 followed
  have conversation : Converses smallRelease (.fresh .empty)
      (staged ++ backup refused :: (freeing (.ok ()) ++ [freed])) outcome after :=
    Dialogue.follow_eq_some_iff.1 held
  obtain ⟨_, _, _, _, unmounted, _, _, _, _, handed, _, answers⟩ :=
    failed_backups_told_iff conversation (by decide +kernel)
  cases unmounted with
  | error failure =>
    rw [handed] at well
    cases well
  | ok volume =>
    obtain ⟨reply, answered, told, _⟩ := answers smallMessage understood_smallMessage
    exact ⟨_, after, reply, handed ▸ conversation, rfl, answered, told.2 (Or.inl rfl)⟩

/-- A backup that failed is not told where the unmount after it fails: the outcome and the answer
are the ones of a release whose backup came out well. -/
theorem failed_backup_untold :
    ∃ outcome after reply,
      Converses smallRelease (.fresh .empty)
        (staged ++ backup refused :: freeing (.error busy)) outcome after ∧
      Rpc.Answers (Memory.smallSettings .onCreate) Memory.smallNow smallMessage (.fresh .empty)
        (staged ++ backup refused :: freeing (.error busy)) reply after ∧
      backupsOf (staged ++ backup refused :: freeing (.error busy)) ≠ [] ∧
      failedBackupsOf (staged ++ backup refused :: freeing (.error busy)) = ["repo-a"] ∧
      ¬TellsFailures (fun heard handed => ∃ last,
          Converses smallRelease (.fresh .empty) heard handed last)
        (staged ++ backup refused :: freeing (.error busy)) outcome ∧
      ¬TellsFailures (fun heard reply => ∃ last,
          Rpc.Answers (Memory.smallSettings .onCreate) Memory.smallNow smallMessage (.fresh .empty)
            heard reply last)
        (staged ++ backup refused :: freeing (.error busy)) reply := by
  obtain ⟨after, failed⟩ : ∃ after, Converses smallRelease (.fresh .empty)
      (staged ++ backup refused :: freeing (.error busy)) (.error busy) after :=
    exists_after_of_follow (by decide +kernel)
  obtain ⟨last, well⟩ : ∃ last, Converses smallRelease (.fresh .empty)
      (staged ++ backup (.finished (.ok ())) :: freeing (.error busy)) (.error busy) last :=
    exists_after_of_follow (by decide +kernel)
  have same : SameButBackups (staged ++ backup refused :: freeing (.error busy))
      (staged ++ backup (.finished (.ok ())) :: freeing (.error busy)) :=
    List.rel_append (SameButBackups.refl staged)
      (.cons ⟨rfl, fun other => nomatch other⟩ (SameButBackups.refl _))
  have untold : ¬(failedBackupsOf (staged ++ backup refused :: freeing (.error busy))).Sublist
      (failedBackupsOf (staged ++ backup (.finished (.ok ())) :: freeing (.error busy))) := by
    decide +kernel
  have answered {heard left} (held : Converses smallRelease (.fresh .empty) heard (.error busy)
      left) :
      Rpc.Answers (Memory.smallSettings .onCreate) Memory.smallNow smallMessage (.fresh .empty)
        heard (.refuse "r-1" (.ofFailure busy)) left :=
    .concluded understood_smallMessage (Request.converses_reply_iff.2 ⟨.error busy, held, rfl⟩)
  exact ⟨_, after, _, failed, answered failed, by decide +kernel, by decide +kernel,
    fun tells => untold (tells _ same ⟨last, well⟩),
    fun tells => untold (tells _ same ⟨last, answered well⟩)⟩

end Reporting

end NodeAgent
