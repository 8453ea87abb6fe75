/-
This file says what a request can make the agent ask for. Whatever is answered, a question names
the accepted volume and no other, its paths are absolute, its sizes are positive, and it goes to the
pool and to the destinations of the settings. A tree is copied only from where a repository said
that it mounted a snapshot.
-/

import NodeAgent.Proofs.Questions
import NodeAgent.Proofs.Repeating
import NodeAgent.Proofs.Requests
import NodeAgent.Proofs.Selecting

namespace NodeAgent

open Operation

/-! ### Absolute paths -/

namespace Path

/-- What a text begins with is not changed by what is written after it. -/
theorem isAbsolute_append {text : String} (absolute : (Path.mk text).isAbsolute = true)
    (more : String) : (Path.mk (text ++ more)).isAbsolute = true := by
  have here : text.toList.head? = some '/' := of_decide_eq_true absolute
  refine decide_eq_true ?_
  rw [String.toList_append, List.head?_append, here]
  rfl

/-- What is seen from an absolute path is absolute. -/
theorem isAbsolute_join {base next : Path} (absolute : base.isAbsolute = true) :
    (base.join next).isAbsolute = true := by
  unfold join
  split
  · assumption
  · exact isAbsolute_append (isAbsolute_append absolute _) _

theorem isAbsolute_entry {directory : Path} (absolute : directory.isAbsolute = true)
    (name : String) : (directory.entry name).isAbsolute = true :=
  isAbsolute_join absolute

theorem isAbsolute_devicePath (group name : String) :
    (devicePath group name).isAbsolute = true := by
  have root : (Path.mk "/dev/").isAbsolute = true := by decide
  exact isAbsolute_append (isAbsolute_append (isAbsolute_append root group) "/") name

end Path

/-! ### Questions within bounds -/

/-- Where a repository said that it mounted a snapshot, at an absolute path. -/
def Mounts (exchanges : List (Exchange backends)) (content : Path) : Prop :=
  ∃ destination snapshot mountPoint, mountPoint.isAbsolute = true ∧
    Exchange.ofRepository (.mountSnapshot destination snapshot mountPoint) (.ok content) ∈ exchanges

theorem Mounts.mono {first second : List (Exchange backends)} (within : first ⊆ second)
    {content : Path} (mounts : Mounts first content) : Mounts second content := by
  obtain ⟨destination, snapshot, mountPoint, absolute, member⟩ := mounts
  exact ⟨destination, snapshot, mountPoint, absolute, within member⟩

/-- Whether a question is within the bounds of a request for a volume at a time, where trees can be
copied from some paths. -/
def Call.Within (settings : Settings) (name : String) (time : Timestamp) (copied : Path → Prop) :
    Call → Prop
  | volume (.list pool) => pool = settings.pool
  | volume (.create pool created size) | volume (.extend pool created size) =>
    pool = settings.pool ∧ created = name ∧ 0 < size.bytes
  | volume (.remove pool removed) => pool = settings.pool ∧ removed = name
  | volume (.queryMount device) | volume (.unmount device) => device.isAbsolute = true
  | volume (.mount device target) => device.isAbsolute = true ∧ target.isAbsolute = true
  | volume (.copyTree source target) => copied source ∧ target.isAbsolute = true
  | volume (.isThin _) => False
  | repository (.findNearest destination sought _) =>
    destination ∈ settings.destinations ∧ sought = name
  | repository (.mountSnapshot destination _ mountPoint)
  | repository (.unmountSnapshot destination mountPoint) =>
    destination ∈ settings.destinations ∧ mountPoint.isAbsolute = true
  | repository (.backup destination saved source taken) =>
    destination ∈ settings.destinations ∧ saved = name ∧ source.isAbsolute = true ∧ taken = time

variable {settings : Settings} {name : String} {time : Timestamp} {copied : Path → Prop}

theorem Call.Within.mono {wider : Path → Prop} {call : Call}
    (within : call.Within settings name time copied) (widens : ∀ path, copied path → wider path) :
    call.Within settings name time wider := by
  match call, within with
  | .volume (.copyTree _ _), within => exact within.imp_left (widens _)
  | .volume (.list _), within | .volume (.create _ _ _), within | .volume (.extend _ _ _), within
  | .volume (.remove _ _), within | .volume (.queryMount _), within | .volume (.unmount _), within
  | .volume (.mount _ _), within | .repository (.findNearest _ _ _), within
  | .repository (.mountSnapshot _ _ _), within | .repository (.unmountSnapshot _ _), within
  | .repository (.backup _ _ _ _), within => exact within

namespace Pool

variable {least : Size} {target : Path}

theorem within_find : AsksOnly (Call.Within settings name time copied) (find settings.pool name) :=
  asksOnly_find rfl

theorem within_ensurePresent (positive : 0 < least.bytes) :
    AsksOnly (Call.Within settings name time copied) (ensurePresent settings.pool name least) :=
  asksOnly_ensurePresent_of rfl ⟨rfl, rfl, positive⟩ ⟨rfl, rfl, positive⟩ ⟨rfl, rfl⟩

theorem within_ensureMounted (absolute : target.isAbsolute = true) :
    AsksOnly (Call.Within settings name time copied) (ensureMounted settings.pool name target) :=
  asksOnly_ensureMounted_of rfl (fun _ _ => Path.isAbsolute_devicePath ..)
    fun _ _ => ⟨Path.isAbsolute_devicePath .., absolute⟩

theorem within_ensureUnmounted :
    AsksOnly (Call.Within settings name time copied) (ensureUnmounted settings.pool name) :=
  asksOnly_ensureUnmounted_of rfl (fun _ _ => Path.isAbsolute_devicePath ..)
    fun _ _ => Path.isAbsolute_devicePath ..

end Pool

/-- A volume is filled from a configured destination, and only from where that was mounted. -/
theorem Restore.within_restore {source : Source} {volumePoint snapshotPoint : Path}
    {before after : Roster} {exchanges : List (Exchange backends)} {outcome : Except Failure Unit}
    (configured : source.destination ∈ settings.destinations)
    (absolute : volumePoint.isAbsolute = true) (served : snapshotPoint.isAbsolute = true)
    (conversation : Converses (restore settings.pool name source volumePoint snapshotPoint) before
      exchanges outcome after) :
    ∀ exchange ∈ exchanges,
      Call.Within settings name time (Mounts exchanges) exchange.question := by
  have restores := restores_of_converses conversation
  cases restores with
  | unstaged refused => exact Pool.within_ensureMounted absolute refused
  | unserved failure staged released =>
    intro exchange member
    rcases List.mem_append.1 member with early | late
    · exact Pool.within_ensureMounted absolute staged exchange early
    · rcases List.mem_cons.1 late with rfl | freeing
      · exact ⟨configured, served⟩
      · exact Pool.within_ensureUnmounted released exchange freeing
  | @copied staging _ _ releasing _ _ content copy release staged released =>
    intro exchange member
    rcases List.mem_append.1 member with early | late
    · exact Pool.within_ensureMounted absolute staged exchange early
    rcases List.mem_cons.1 late with rfl | late
    · exact ⟨configured, served⟩
    rcases List.mem_cons.1 late with rfl | late
    · exact ⟨⟨_, _, _, served, List.mem_append_right _ List.mem_cons_self⟩, absolute⟩
    rcases List.mem_cons.1 late with rfl | freeing
    · exact ⟨configured, served⟩
    · exact Pool.within_ensureUnmounted released exchange freeing

/-- The snapshot that is selected is of one of the destinations that were asked. -/
theorem Selection.destination_mem {volume : String} {moment : Instant}
    {destinations : List Destination} {exchanges : List (Exchange backends)} {source : Source}
    (held : Dialogue.Held (select volume destinations moment) exchanges (some source)) :
    source.destination ∈ destinations := by
  obtain ⟨answers, rfl, -, chosen⟩ := held_select_iff.1 held
  obtain ⟨position, listed, -⟩ := nearest?_eq_some chosen.symm
  obtain ⟨report, member, made⟩ := List.mem_filterMap.1 (List.mem_of_getElem? listed)
  obtain ⟨answer, among, rfl⟩ := List.mem_map.1 member
  obtain ⟨snapshot, -, rfl⟩ := Option.map_eq_some_iff.1 made
  exact List.mem_map.2 ⟨answer, among, rfl⟩

namespace Agent

variable {now : Instant} {target : Path} {capacity : Option Int} {agent after : Agent}
  {exchanges : List (Exchange backends)}

theorem positive_of_checkPublish (valid : checkPublish settings name target capacity = .ok ()) :
    0 < (sizeFor settings capacity).bytes := by
  have named := checkVolumeId_of_checkPublish valid
  have absolute := Memory.isAbsolute_of_checkPublish valid
  unfold checkPublish at valid
  rw [named, checkTargetPath_of_isAbsolute absolute] at valid
  by_cases small : (sizeFor settings capacity).bytes ≤ 0
  · rw [if_pos small] at valid
    cases valid
  · exact Int.not_le.1 small

theorem Fills.within {due : Bool} {before last : Roster} {how : Filling}
    (staged : settings.staging.isAbsolute = true)
    (fills : Fills settings now name before due exchanges how last) :
    ∀ exchange ∈ exchanges,
      Call.Within settings name time (Mounts exchanges) exchange.question := by
  have selecting {asking : List (Exchange backends)} {selected : Option Source}
      (held : Dialogue.Held (Selection.select name settings.destinations now) asking selected) :
      ∀ exchange ∈ asking, Call.Within settings name time (Mounts exchanges) exchange.question := by
    intro exchange member
    have inside : exchange.question ∈ callsOf asking := List.mem_map.2 ⟨exchange, member, rfl⟩
    rw [Selection.questions_of_select held] at inside
    obtain ⟨destination, configured, same⟩ := List.mem_map.1 inside
    rw [← same]
    exact ⟨configured, rfl⟩
  cases fills with
  | unfilled => exact fun _ member => nomatch member
  | nothingFound selected => exact selecting selected
  | restored selected restoration | broken selected restoration =>
    intro exchange member
    rcases List.mem_append.1 member with asked | restoring
    · exact selecting selected exchange asked
    · refine Call.Within.mono ?_ fun _ => Mounts.mono (List.subset_append_right _ _)
      exact Restore.within_restore (Selection.destination_mem selected)
        (Path.isAbsolute_entry staged name)
        (Path.isAbsolute_entry (Path.isAbsolute_entry staged ".snapshots") name) restoration
        exchange restoring

/-- A publish keeps within its bounds. -/
theorem Publishes.within {progress : Progress} {outcome : Except Failure Published}
    (staged : settings.staging.isAbsolute = true)
    (course : Publishes settings now name target capacity agent exchanges progress outcome
      after) :
    ∀ exchange ∈ exchanges, checkVolumeId name = .ok () ∧
      Call.Within settings name time (Mounts exchanges) exchange.question := by
  intro exchange member
  cases course with
  | refused invalid => cases member
  | absent valid present | alreadyMounted valid present there =>
    have sized := positive_of_checkPublish valid
    exact ⟨checkVolumeId_of_checkPublish valid,
      Pool.within_ensurePresent sized present exchange member⟩
  | broken valid present notThere filled failed =>
    refine ⟨checkVolumeId_of_checkPublish valid, ?_⟩
    rcases List.mem_append.1 member with presented | filling
    · exact Pool.within_ensurePresent (positive_of_checkPublish valid) present exchange presented
    · exact (filled.within staged exchange filling).mono fun _ =>
        Mounts.mono (List.subset_append_right _ _)
  | unmounted valid present notThere filled settled placed
  | mounted valid present notThere filled settled placed =>
    refine ⟨checkVolumeId_of_checkPublish valid, ?_⟩
    rcases List.mem_append.1 member with earlier | mounting
    · rcases List.mem_append.1 earlier with presented | filling
      · exact Pool.within_ensurePresent (positive_of_checkPublish valid) present exchange presented
      · exact (filled.within staged exchange filling).mono fun _ =>
          Mounts.mono fun _ inside => List.mem_append_left _ (List.mem_append_right _ inside)
    · exact Pool.within_ensureMounted (Memory.isAbsolute_of_checkPublish valid) placed exchange
        mounting

theorem Departs.within {before last : Roster} {reason : Option String}
    {outcome : Except Failure Released} (staged : settings.staging.isAbsolute = true)
    (departs : Departs settings now name before reason exchanges outcome last) :
    ∀ exchange ∈ exchanges,
      Call.Within settings name (.ofInstant now) copied exchange.question := by
  have point := Path.isAbsolute_entry staged name
  intro exchange member
  cases departs with
  | stuck left | skipped left => exact Pool.within_ensureUnmounted left exchange member
  | unstaged left placed =>
    rcases List.mem_append.1 member with leaving | staging
    · exact Pool.within_ensureUnmounted left exchange leaving
    · exact Pool.within_ensureMounted point placed exchange staging
  | backedUp left placed backed freed =>
    rcases List.mem_append.1 member with leaving | later
    · exact Pool.within_ensureUnmounted left exchange leaving
    rcases List.mem_append.1 later with staging | later
    · exact Pool.within_ensureMounted point placed exchange staging
    rcases List.mem_append.1 later with backing | ending
    · have inside : exchange.question ∈ callsOf _ := List.mem_map.2 ⟨exchange, backing, rfl⟩
      rw [Backup.questions_of_backupAll backed] at inside
      obtain ⟨destination, configured, same⟩ := List.mem_map.1 inside
      rw [← same]
      exact ⟨configured, rfl, point, rfl⟩
    · exact Pool.within_ensureUnmounted freed exchange ending

/-- A release keeps within its bounds. -/
theorem Releases.within {outcome : Except Failure Released}
    (staged : settings.staging.isAbsolute = true)
    (course : Releases settings now name target agent exchanges outcome after) :
    ∀ exchange ∈ exchanges, checkVolumeId name = .ok () ∧
      Call.Within settings name (.ofInstant now) copied exchange.question := by
  intro exchange member
  cases course with
  | refused invalid => cases member
  | unlisted valid looked | missing valid looked =>
    exact ⟨checkVolumeId_of_checkUnpublish valid, Pool.within_find looked exchange member⟩
  | departed valid looked departs =>
    refine ⟨checkVolumeId_of_checkUnpublish valid, ?_⟩
    rcases List.mem_append.1 member with seen | departed
    · exact Pool.within_find looked exchange seen
    · exact departs.within staged exchange departed

end Agent

/-- The time at which a request is made. -/
def Request.now : Request → Instant
  | publish now _ _ _ | unpublish now _ _ => now

end NodeAgent
