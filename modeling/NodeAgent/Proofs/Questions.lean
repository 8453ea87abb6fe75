/-
This file says which questions the operations ask. What an operation may ask is put together from
what its parts may ask, so the statements here follow the text of the operations. The operations on
the pool ask the volume tools and copy nothing; only the selection asks for the nearest snapshots
and only a release asks for backups, each of them every destination once and in order.
-/

import NodeAgent.Proofs.Pool
import NodeAgent.Proofs.Release

namespace NodeAgent

namespace Call

/-- Whether a question looks at the volumes, or looks at or changes the mount of the named one. -/
def IsMounting (name : String) : Call → Prop
  | volume (.list _) => True
  | volume (.queryMount device) | volume (.mount device _) | volume (.unmount device) =>
    ∃ group, device = devicePath group name
  | _ => False

/-- Whether a question belongs to the care of the named volume: it goes to the volume tools and
copies nothing. -/
def IsUpkeep (name : String) : Call → Prop
  | volume (.create _ kept _) | volume (.extend _ kept _) | volume (.remove _ kept) => kept = name
  | call => call.IsMounting name

/-- Whether a question belongs to restoring the named volume from a snapshot. -/
def IsRestoring (name : String) : Call → Prop
  | volume (.copyTree _ _) => True
  | repository (.mountSnapshot _ _ _) | repository (.unmountSnapshot _ _) => True
  | call => call.IsMounting name

/-- Whether a question asks for the creation of a volume. -/
def IsCreationOf (name : String) : Call → Prop
  | volume (.create _ created _) => created = name
  | _ => False

/-- The question to a repository, where it is one. -/
def repository? : Call → Option RepositoryCall
  | repository call => some call
  | volume _ => none

/-- The question for the nearest snapshot of a volume, where it is one. -/
def query? : Call → Option RepositoryCall
  | repository (.findNearest destination name time) => some (.findNearest destination name time)
  | _ => none

/-- The question for a backup, where it is one. -/
def backup? : Call → Option RepositoryCall
  | repository (.backup destination name source time) =>
    some (.backup destination name source time)
  | _ => none

end Call

/-- All questions of a conversation, in order. -/
def callsOf (exchanges : List (Exchange backends)) : List Call :=
  exchanges.map fun exchange => exchange.question

/-- The questions to repositories in a conversation, in order. -/
def repositoryCallsOf (exchanges : List (Exchange backends)) : List RepositoryCall :=
  (callsOf exchanges).filterMap Call.repository?

/-- The questions for nearest snapshots in a conversation, in order. -/
def queriesOf (exchanges : List (Exchange backends)) : List RepositoryCall :=
  (callsOf exchanges).filterMap Call.query?

/-- The questions for backups in a conversation, in order. -/
def backupsOf (exchanges : List (Exchange backends)) : List RepositoryCall :=
  (callsOf exchanges).filterMap Call.backup?

/-- The creation of a volume was asked for, whatever the answer. -/
def AsksCreation (volume : String) (exchanges : List (Exchange backends)) : Prop :=
  ∃ exchange ∈ exchanges, Call.IsCreationOf volume exchange.question

/-- The creation of a volume was asked for and reported as done. -/
def Created (volume : String) (exchanges : List (Exchange backends)) : Prop :=
  ∃ pool size, Exchange.ofVolume (.create pool volume size) (.ok ()) ∈ exchanges

theorem Created.asksCreation {volume : String} {exchanges : List (Exchange backends)}
    (created : Created volume exchanges) : AsksCreation volume exchanges := by
  obtain ⟨pool, size, member⟩ := created
  exact ⟨_, member, rfl⟩

theorem asksCreation_append {volume : String} {first second : List (Exchange backends)} :
    AsksCreation volume (first ++ second) ↔
      AsksCreation volume first ∨ AsksCreation volume second := by
  unfold AsksCreation
  simp only [List.mem_append, or_and_right, exists_or]

theorem not_asksCreation_nil (volume : String) : ¬AsksCreation volume [] := by
  rintro ⟨exchange, member, _⟩
  cases member

theorem asksCreation_cons {volume : String} {exchange : Exchange backends}
    {rest : List (Exchange backends)} :
    AsksCreation volume (exchange :: rest) ↔
      Call.IsCreationOf volume exchange.question ∨ AsksCreation volume rest := by
  unfold AsksCreation
  simp only [List.mem_cons, exists_eq_or_imp]

@[simp] theorem callsOf_append (first second : List (Exchange backends)) :
    callsOf (first ++ second) = callsOf first ++ callsOf second :=
  List.map_append

theorem repositoryCallsOf_append (first second : List (Exchange backends)) :
    repositoryCallsOf (first ++ second) = repositoryCallsOf first ++ repositoryCallsOf second := by
  unfold repositoryCallsOf
  rw [callsOf_append, List.filterMap_append]

@[simp] theorem queriesOf_append (first second : List (Exchange backends)) :
    queriesOf (first ++ second) = queriesOf first ++ queriesOf second := by
  unfold queriesOf
  rw [callsOf_append, List.filterMap_append]

@[simp] theorem backupsOf_append (first second : List (Exchange backends)) :
    backupsOf (first ++ second) = backupsOf first ++ backupsOf second := by
  unfold backupsOf
  rw [callsOf_append, List.filterMap_append]

theorem mem_repositoryCallsOf_of_backup {call : RepositoryCall}
    {exchanges : List (Exchange backends)} (member : call ∈ backupsOf exchanges) :
    call ∈ repositoryCallsOf exchanges := by
  obtain ⟨question, asked, backup⟩ := List.mem_filterMap.1 member
  refine List.mem_filterMap.2 ⟨question, asked, ?_⟩
  match question, backup with
  | .repository (.backup _ _ _ _), backup => exact backup

namespace Operation

variable {State Larger Result Later : Type} {allowed : Call → Prop}

/-- Whatever it is answered, the operation asks allowed questions only. -/
def AsksOnly (allowed : Call → Prop) (operation : Operation State Result) : Prop :=
  ∀ ⦃before exchanges outcome after⦄, Converses operation before exchanges outcome after →
    ∀ exchange ∈ exchanges, allowed exchange.question

theorem asksOnly_pure (result : Result) :
    AsksOnly allowed (pure result : Operation State Result) := by
  intro before exchanges outcome after conversation
  obtain ⟨rfl, _⟩ := converses_pure_iff.1 conversation
  exact fun exchange member => nomatch member

theorem asksOnly_throw (failure : Failure) :
    AsksOnly allowed (throw failure : Operation State Result) := by
  intro before exchanges outcome after conversation
  obtain ⟨rfl, _⟩ := converses_throw_iff.1 conversation
  exact fun exchange member => nomatch member

theorem asksOnly_fromResult (result : Except Failure Result) :
    AsksOnly allowed (fromResult result : Operation State Result) := by
  intro before exchanges outcome after conversation
  obtain ⟨rfl, _⟩ := converses_fromResult_iff.1 conversation
  exact fun exchange member => nomatch member

theorem asksOnly_get : AsksOnly allowed (get : Operation State State) := by
  intro before exchanges outcome after conversation
  obtain ⟨rfl, _⟩ := converses_get_iff.1 conversation
  exact fun exchange member => nomatch member

theorem asksOnly_modify (change : State → State) :
    AsksOnly allowed (modify change : Operation State PUnit) := by
  intro before exchanges outcome after conversation
  obtain ⟨rfl, _⟩ := converses_modify_iff.1 conversation
  exact fun exchange member => nomatch member

theorem asksOnly_set (state : State) :
    AsksOnly allowed (set state : Operation State PUnit) := by
  intro before exchanges outcome after conversation
  obtain ⟨rfl, _⟩ := converses_set_iff.1 conversation
  exact fun exchange member => nomatch member

theorem asksOnly_askVolume {call : VolumeCall} (allows : allowed (.volume call)) :
    AsksOnly allowed (askVolume call : Operation State call.Result) := by
  intro before exchanges outcome after conversation
  obtain ⟨rfl, _⟩ := converses_askVolume_iff.1 conversation
  intro exchange member
  rw [List.mem_singleton.1 member]
  exact allows

theorem asksOnly_askRepository {call : RepositoryCall} (allows : allowed (.repository call)) :
    AsksOnly allowed (askRepository call : Operation State call.Answer) := by
  intro before exchanges outcome after conversation
  obtain ⟨given, _, rfl, _⟩ := converses_askRepository_iff.1 conversation
  intro exchange member
  rw [List.mem_singleton.1 member]
  exact allows

/-- The rest of an operation counts only with the results that the first part can have. -/
theorem asksOnly_bind_of_result {operation : Operation State Result}
    {next : Result → Operation State Later} (first : AsksOnly allowed operation)
    (second : ∀ before exchanges result after,
      Converses operation before exchanges (.ok result) after → AsksOnly allowed (next result)) :
    AsksOnly allowed (operation >>= next) := by
  intro before exchanges outcome after conversation
  rcases converses_bind_iff.1 conversation with
    ⟨asked, further, result, middle, rfl, held, rest⟩ | ⟨failure, rfl, held⟩
  · intro exchange member
    rcases List.mem_append.1 member with early | late
    · exact first held exchange early
    · exact second _ _ _ _ held rest exchange late
  · exact first held

theorem asksOnly_bind {operation : Operation State Result}
    {next : Result → Operation State Later} (first : AsksOnly allowed operation)
    (second : ∀ result, AsksOnly allowed (next result)) :
    AsksOnly allowed (operation >>= next) :=
  asksOnly_bind_of_result first fun _ _ result _ _ => second result

theorem asksOnly_attempt {operation : Operation State Result}
    (asksOnly : AsksOnly allowed operation) : AsksOnly allowed (attempt operation) := by
  intro before exchanges outcome after conversation
  obtain ⟨_, _, held⟩ := converses_attempt_iff.1 conversation
  exact asksOnly held

theorem AsksOnly.mono {wider : Call → Prop} {operation : Operation State Result}
    (asksOnly : AsksOnly allowed operation) (widens : ∀ call, allowed call → wider call) :
    AsksOnly wider operation :=
  fun _ _ _ _ conversation exchange member =>
    widens _ (asksOnly conversation exchange member)

end Operation

open Operation

/-! ### The pool -/

theorem Call.IsMounting.isUpkeep {name : String} (call : Call) (mounting : call.IsMounting name) :
    call.IsUpkeep name := by
  match call, mounting with
  | .volume (.list _), mounting | .volume (.queryMount _), mounting
  | .volume (.mount _ _), mounting | .volume (.unmount _), mounting => exact mounting

namespace Pool

variable {pool : ThinPool} {name : String} {target : Path} {least : Size} {allowed : Call → Prop}

/-- A volume stands in the roster under its own name. -/
theorem name_of_get?_rosterOf {listed : List Volume} {volume : Volume}
    (found : (rosterOf listed).get? name = some volume) : volume.name = name := by
  obtain ⟨_, _, same⟩ := List.mem_map.1 (Table.mem_of_get?_ofList found)
  cases same
  rfl

theorem name_of_require {before after : Roster} {exchanges : List (Exchange backends)}
    {volume : Volume}
    (conversation : Converses (require pool name) before exchanges (.ok volume) after) :
    volume.name = name := by
  cases requires_of_converses conversation with
  | found volumes volume there => exact name_of_get?_rosterOf there

theorem asksOnly_refresh (lists : allowed (.volume (.list pool))) :
    AsksOnly allowed (refresh pool) :=
  asksOnly_bind (asksOnly_askVolume lists) fun _ => asksOnly_set _

theorem asksOnly_find (lists : allowed (.volume (.list pool))) :
    AsksOnly allowed (find pool name) :=
  asksOnly_bind (asksOnly_refresh lists) fun _ =>
    asksOnly_bind asksOnly_get fun _ => asksOnly_pure _

theorem asksOnly_require (lists : allowed (.volume (.list pool))) :
    AsksOnly allowed (require pool name) := by
  refine asksOnly_bind (asksOnly_find lists) fun found => ?_
  cases found with
  | some volume => exact asksOnly_pure volume
  | none => exact asksOnly_throw _

theorem asksOnly_discardPartial (lists : allowed (.volume (.list pool)))
    (removes : allowed (.volume (.remove pool name))) :
    AsksOnly allowed (discardPartial pool name) := by
  refine asksOnly_bind (asksOnly_attempt (asksOnly_find lists)) fun seen => ?_
  match seen with
  | .ok (some left) =>
    exact asksOnly_bind (asksOnly_attempt (asksOnly_askVolume removes)) fun _ =>
      asksOnly_bind (asksOnly_attempt (asksOnly_refresh lists)) fun _ => asksOnly_pure _
  | .ok none => exact asksOnly_pure _
  | .error failure => exact asksOnly_pure _

theorem asksOnly_ensurePresent_of (lists : allowed (.volume (.list pool)))
    (creates : allowed (.volume (.create pool name least)))
    (grows : allowed (.volume (.extend pool name least)))
    (removes : allowed (.volume (.remove pool name))) :
    AsksOnly allowed (ensurePresent pool name least) := by
  unfold ensurePresent
  split
  · exact asksOnly_throw _
  · refine asksOnly_bind (asksOnly_find lists) fun found => ?_
    cases found with
    | none =>
      refine asksOnly_bind (asksOnly_attempt (asksOnly_askVolume creates)) fun creation => ?_
      cases creation with
      | ok _ => exact asksOnly_bind (asksOnly_require lists) fun _ => asksOnly_pure _
      | error failure =>
        exact asksOnly_bind (asksOnly_discardPartial lists removes) fun _ => asksOnly_throw _
    | some existing =>
      dsimp only
      split
      · exact asksOnly_bind (asksOnly_askVolume grows) fun _ =>
          asksOnly_bind (asksOnly_require lists) fun _ => asksOnly_pure _
      · exact asksOnly_pure _

theorem asksOnly_ensurePresent :
    AsksOnly (Call.IsUpkeep name) (ensurePresent pool name least) :=
  asksOnly_ensurePresent_of trivial rfl rfl rfl

theorem asksOnly_record {volume : Volume} {found : Option Path} :
    AsksOnly allowed (record name volume found) :=
  asksOnly_bind (asksOnly_modify _) fun _ => asksOnly_pure _

theorem asksOnly_ensureMounted_of (lists : allowed (.volume (.list pool)))
    (queries : ∀ volume : Volume, volume.name = name →
      allowed (.volume (.queryMount volume.device)))
    (mounts : ∀ volume : Volume, volume.name = name →
      allowed (.volume (.mount volume.device target))) :
    AsksOnly allowed (ensureMounted pool name target) := by
  refine asksOnly_bind_of_result (asksOnly_require lists) fun _ _ volume _ required => ?_
  have named := name_of_require required
  refine asksOnly_bind (asksOnly_askVolume (queries volume named)) fun current => ?_
  cases current with
  | some place =>
    dsimp only
    split
    · exact asksOnly_record
    · exact asksOnly_throw _
  | none =>
    exact asksOnly_bind (asksOnly_askVolume (mounts volume named)) fun _ => asksOnly_require lists

theorem asksOnly_ensureUnmounted_of (lists : allowed (.volume (.list pool)))
    (queries : ∀ volume : Volume, volume.name = name →
      allowed (.volume (.queryMount volume.device)))
    (unmounts : ∀ volume : Volume, volume.name = name →
      allowed (.volume (.unmount volume.device))) :
    AsksOnly allowed (ensureUnmounted pool name) := by
  refine asksOnly_bind_of_result (asksOnly_require lists) fun _ _ volume _ required => ?_
  have named := name_of_require required
  refine asksOnly_bind (asksOnly_askVolume (queries volume named)) fun current => ?_
  cases current with
  | none => exact asksOnly_record
  | some place =>
    exact asksOnly_bind (asksOnly_askVolume (unmounts volume named)) fun _ =>
      asksOnly_require lists

theorem device_of_name {volume : Volume} (named : volume.name = name) :
    ∃ group, volume.device = devicePath group name :=
  ⟨volume.group, named ▸ rfl⟩

theorem asksOnly_ensureMounted :
    AsksOnly (Call.IsMounting name) (ensureMounted pool name target) :=
  asksOnly_ensureMounted_of trivial (fun _ => device_of_name) fun _ => device_of_name

theorem asksOnly_ensureUnmounted :
    AsksOnly (Call.IsMounting name) (ensureUnmounted pool name) :=
  asksOnly_ensureUnmounted_of trivial (fun _ => device_of_name) fun _ => device_of_name

end Pool

/-! ### Restoring -/

theorem Call.IsMounting.isRestoring {name : String} (call : Call)
    (mounting : call.IsMounting name) : call.IsRestoring name := by
  match call, mounting with
  | .volume (.list _), mounting | .volume (.queryMount _), mounting
  | .volume (.mount _ _), mounting | .volume (.unmount _), mounting => exact mounting

theorem Restore.asksOnly_restore {pool : ThinPool} {volume : String} {source : Source}
    {volumePoint snapshotPoint : Path} :
    AsksOnly (Call.IsRestoring volume)
      (restore pool volume source volumePoint snapshotPoint) := by
  refine asksOnly_bind (Pool.asksOnly_ensureMounted.mono Call.IsMounting.isRestoring) fun _ => ?_
  refine asksOnly_bind (asksOnly_askRepository trivial) fun mounted => ?_
  have freeing : AsksOnly (Call.IsRestoring volume) (attempt (Pool.ensureUnmounted pool volume)) :=
    asksOnly_attempt (Pool.asksOnly_ensureUnmounted.mono Call.IsMounting.isRestoring)
  cases mounted with
  | error failure => exact asksOnly_bind freeing fun _ => asksOnly_throw _
  | ok content =>
    refine asksOnly_bind (asksOnly_attempt (asksOnly_askVolume trivial)) fun copied => ?_
    refine asksOnly_bind (asksOnly_askRepository trivial) fun snapshotReleased => ?_
    refine asksOnly_bind freeing fun volumeReleased => ?_
    refine asksOnly_bind (asksOnly_fromResult copied) fun _ => ?_
    refine asksOnly_bind (asksOnly_fromResult snapshotReleased) fun _ => ?_
    exact asksOnly_bind (asksOnly_fromResult volumeReleased) fun _ => asksOnly_pure _

/-! ### What is not asked -/

namespace Call

variable {name : String} {call : Call}

theorem IsUpkeep.query?_eq_none (upkeep : call.IsUpkeep name) : call.query? = none := by
  cases call with
  | volume call => rfl
  | repository call => exact absurd upkeep id

theorem IsUpkeep.backup?_eq_none (upkeep : call.IsUpkeep name) : call.backup? = none := by
  cases call with
  | volume call => rfl
  | repository call => exact absurd upkeep id

theorem IsRestoring.query?_eq_none (restoring : call.IsRestoring name) : call.query? = none := by
  match call, restoring with
  | .volume _, _ | .repository (.mountSnapshot _ _ _), _
  | .repository (.unmountSnapshot _ _), _ => rfl

theorem IsRestoring.backup?_eq_none (restoring : call.IsRestoring name) : call.backup? = none := by
  match call, restoring with
  | .volume _, _ | .repository (.mountSnapshot _ _ _), _
  | .repository (.unmountSnapshot _ _), _ => rfl

theorem IsRestoring.not_isCreationOf (restoring : call.IsRestoring name) (other : String) :
    ¬call.IsCreationOf other := by
  match call, restoring with
  | .volume (.list _), _ | .volume (.queryMount _), _ | .volume (.mount _ _), _
  | .volume (.unmount _), _ | .volume (.copyTree _ _), _ | .repository _, _ => exact id

end Call

theorem queriesOf_eq_nil {exchanges : List (Exchange backends)}
    (none : ∀ exchange ∈ exchanges, Call.query? exchange.question = none) :
    queriesOf exchanges = [] := by
  refine List.filterMap_eq_nil_iff.2 fun question member => ?_
  obtain ⟨exchange, asked, rfl⟩ := List.mem_map.1 member
  exact none exchange asked

theorem backupsOf_eq_nil {exchanges : List (Exchange backends)}
    (none : ∀ exchange ∈ exchanges, Call.backup? exchange.question = none) :
    backupsOf exchanges = [] := by
  refine List.filterMap_eq_nil_iff.2 fun question member => ?_
  obtain ⟨exchange, asked, rfl⟩ := List.mem_map.1 member
  exact none exchange asked

/-- Looking at a volume and changing its mount asks for no backup. -/
theorem backupsOf_eq_nil_of_asksOnly {State Result : Type} {operation : Operation State Result}
    {before after : State} {exchanges : List (Exchange backends)} {outcome : Except Failure Result}
    {name : String} (asksOnly : AsksOnly (Call.IsMounting name) operation)
    (conversation : Converses operation before exchanges outcome after) :
    backupsOf exchanges = [] :=
  backupsOf_eq_nil fun exchange member =>
    (asksOnly conversation exchange member).isUpkeep.backup?_eq_none

namespace Pool

variable {pool : ThinPool} {name : String} {target : Path} {before after : Roster}
  {exchanges : List (Exchange backends)}

theorem backupsOf_of_find {outcome : Except Failure (Option Volume)}
    (conversation : Converses (find pool name) before exchanges outcome after) :
    backupsOf exchanges = [] :=
  have asksOnly : AsksOnly (Call.IsMounting name) (find pool name) := asksOnly_find trivial
  backupsOf_eq_nil_of_asksOnly asksOnly conversation

theorem backupsOf_of_ensureMounted {outcome : Except Failure Volume}
    (conversation : Converses (ensureMounted pool name target) before exchanges outcome after) :
    backupsOf exchanges = [] :=
  backupsOf_eq_nil_of_asksOnly asksOnly_ensureMounted conversation

theorem backupsOf_of_ensureUnmounted {outcome : Except Failure Volume}
    (conversation : Converses (ensureUnmounted pool name) before exchanges outcome after) :
    backupsOf exchanges = [] :=
  backupsOf_eq_nil_of_asksOnly asksOnly_ensureUnmounted conversation

end Pool

/-! ### Destinations -/

theorem exists_destination_of_callsOf {question : Destination → Call}
    {destinations : List Destination} {exchanges : List (Exchange backends)}
    (asked : callsOf exchanges = destinations.map question) :
    ∀ exchange ∈ exchanges, ∃ destination, exchange.question = question destination := by
  intro exchange member
  have inside : exchange.question ∈ callsOf exchanges := List.mem_map.2 ⟨exchange, member, rfl⟩
  rw [asked] at inside
  obtain ⟨destination, _, same⟩ := List.mem_map.1 inside
  exact ⟨destination, same.symm⟩

theorem Selection.questions_of_query {volume : String} {time : Instant}
    {destination : Destination} {exchanges : List (Exchange backends)} {found : Option Snapshot}
    (held : Dialogue.Held (query volume time destination) exchanges found) :
    callsOf exchanges = [.repository (.findNearest destination volume time)] := by
  cases held with
  | ask answer rest =>
    match answer, rest with
    | .ok _, rest => rw [(held_done_iff.1 rest).1]; rfl
    | .error _, rest => rw [(held_done_iff.1 rest).1]; rfl

theorem Selection.questions_of_queryAll {volume : String} {time : Instant}
    {destinations : List Destination} {exchanges : List (Exchange backends)}
    {reports : List (Destination × Option Snapshot)}
    (held : Dialogue.Held (queryAll volume time destinations) exchanges reports) :
    callsOf exchanges =
      destinations.map fun destination => .repository (.findNearest destination volume time) := by
  induction destinations generalizing exchanges reports with
  | nil =>
    rw [(held_done_iff.1 held).1]
    rfl
  | cons destination rest inductionHypothesis =>
    obtain ⟨asking, further, found, rfl, asked, others⟩ := Dialogue.held_bind_iff.1 held
    obtain ⟨next, ending, reports, rfl, askedNext, ended⟩ := Dialogue.held_bind_iff.1 others
    rw [(held_done_iff.1 ended).1, List.append_nil, callsOf_append, questions_of_query asked,
      inductionHypothesis askedNext]
    rfl

/-- The selection asks every destination once for its nearest snapshot, in order. -/
theorem Selection.questions_of_select {volume : String} {destinations : List Destination}
    {time : Instant} {exchanges : List (Exchange backends)} {selected : Option Source}
    (held : Dialogue.Held (select volume destinations time) exchanges selected) :
    callsOf exchanges =
      destinations.map fun destination => .repository (.findNearest destination volume time) := by
  obtain ⟨asking, ending, reports, rfl, asked, ended⟩ := Dialogue.held_bind_iff.1 held
  rw [(held_done_iff.1 ended).1, List.append_nil]
  exact questions_of_queryAll asked

theorem Selection.queriesOf_of_select {volume : String} {destinations : List Destination}
    {time : Instant} {exchanges : List (Exchange backends)} {selected : Option Source}
    (held : Dialogue.Held (select volume destinations time) exchanges selected) :
    queriesOf exchanges = destinations.map (.findNearest · volume time) := by
  unfold queriesOf
  rw [questions_of_select held, List.filterMap_map]
  exact congrFun (List.filterMap_eq_map (f := (RepositoryCall.findNearest · volume time)))
    destinations

theorem Selection.mem_of_select {volume : String} {destinations : List Destination}
    {time : Instant} {exchanges : List (Exchange backends)} {selected : Option Source}
    (held : Dialogue.Held (select volume destinations time) exchanges selected) :
    ∀ exchange ∈ exchanges, ∃ destination,
      exchange.question = Call.repository (.findNearest destination volume time) :=
  exists_destination_of_callsOf (questions_of_select held)

theorem Backup.questions_of_backupEach {volume : String} {source : Path} {time : Timestamp}
    {destinations : List Destination} {exchanges : List (Exchange backends)}
    {results : List BackupResult}
    (held : Dialogue.Held (backupEach volume source time destinations) exchanges results) :
    callsOf exchanges =
      destinations.map fun destination => .repository (.backup destination volume source time) := by
  induction destinations generalizing exchanges results with
  | nil =>
    rw [(held_done_iff.1 held).1]
    rfl
  | cons destination rest inductionHypothesis =>
    cases held with
    | ask answer others =>
      obtain ⟨next, ending, results, rfl, askedNext, ended⟩ := Dialogue.held_bind_iff.1 others
      rw [(held_done_iff.1 ended).1, List.append_nil]
      exact congrArg (_ :: ·) (inductionHypothesis askedNext)

/-- The backups ask every destination once for a backup, in order. -/
theorem Backup.questions_of_backupAll {volume : String} {source : Path}
    {destinations : List Destination} {time : Timestamp} {exchanges : List (Exchange backends)}
    {report : BackupReport}
    (held : Dialogue.Held (backupAll volume source destinations time) exchanges report) :
    callsOf exchanges =
      destinations.map fun destination => .repository (.backup destination volume source time) := by
  obtain ⟨asking, ending, results, rfl, asked, ended⟩ := Dialogue.held_bind_iff.1 held
  rw [(held_done_iff.1 ended).1, List.append_nil]
  exact questions_of_backupEach asked

theorem Backup.backupsOf_of_backupAll {volume : String} {source : Path}
    {destinations : List Destination} {time : Timestamp} {exchanges : List (Exchange backends)}
    {report : BackupReport}
    (held : Dialogue.Held (backupAll volume source destinations time) exchanges report) :
    backupsOf exchanges = destinations.map (.backup · volume source time) := by
  unfold backupsOf
  rw [questions_of_backupAll held, List.filterMap_map]
  exact congrFun (List.filterMap_eq_map (f := (RepositoryCall.backup · volume source time)))
    destinations

theorem Backup.mem_of_backupAll {volume : String} {source : Path}
    {destinations : List Destination} {time : Timestamp} {exchanges : List (Exchange backends)}
    {report : BackupReport}
    (held : Dialogue.Held (backupAll volume source destinations time) exchanges report) :
    ∀ exchange ∈ exchanges, ∃ destination,
      exchange.question = Call.repository (.backup destination volume source time) :=
  exists_destination_of_callsOf (questions_of_backupAll held)

/-! ### Publishing and releasing -/

namespace Agent

variable {settings : Settings} {now : Instant} {volume : String} {target : Path}
  {capacity : Option Int} {agent after : Agent} {exchanges : List (Exchange backends)}

/-- Filling asks nothing but for nearest snapshots and what a restore needs. -/
theorem Fills.mem_cases {due : Bool} {before last : Roster} {how : Filling}
    (fills : Fills settings now volume before due exchanges how last) :
    ∀ exchange ∈ exchanges,
      (∃ destination,
        exchange.question = Call.repository (.findNearest destination volume now)) ∨
      Call.IsRestoring volume exchange.question := by
  intro exchange member
  cases fills with
  | unfilled => cases member
  | nothingFound selected => exact Or.inl (Selection.mem_of_select selected exchange member)
  | restored selected restoration | broken selected restoration =>
    rcases List.mem_append.1 member with asked | restored
    · exact Or.inl (Selection.mem_of_select selected exchange asked)
    · exact Or.inr (Restore.asksOnly_restore restoration exchange restored)

theorem Fills.not_asksCreation {due : Bool} {before last : Roster} {how : Filling}
    (fills : Fills settings now volume before due exchanges how last) (name : String) :
    ¬AsksCreation name exchanges := by
  rintro ⟨exchange, member, creation⟩
  rcases fills.mem_cases exchange member with ⟨destination, asked⟩ | restoring
  · rw [asked] at creation
    exact creation
  · exact restoring.not_isCreationOf name creation

/-- Filling asks every destination for its nearest snapshot where it is due, and nothing where it is
not. -/
theorem Fills.queriesOf_eq {due : Bool} {before last : Roster} {how : Filling}
    (fills : Fills settings now volume before due exchanges how last) :
    queriesOf exchanges =
      if due then settings.destinations.map (.findNearest · volume now) else [] := by
  cases fills with
  | unfilled => rfl
  | nothingFound selected => exact Selection.queriesOf_of_select selected
  | restored selected restoration | broken selected restoration =>
    have none := queriesOf_eq_nil fun exchange member =>
      (Restore.asksOnly_restore restoration exchange member).query?_eq_none
    rw [queriesOf_append, none, List.append_nil]
    exact Selection.queriesOf_of_select selected

theorem Fills.eq_nil_of_not_due {before last : Roster} {how : Filling}
    (fills : Fills settings now volume before false exchanges how last) : exchanges = [] := by
  cases fills with
  | unfilled => rfl

/-- The parts of a publish whose volume was present and not mounted at the target. -/
theorem Publishes.parts_of_presented {presence : Pool.Presence} {how : Filling}
    {outcome : Except Failure Published}
    (course : Publishes settings now volume target capacity agent exchanges
      (.presented presence how) outcome after) :
    ∃ presenting filling mounting roster last, exchanges = presenting ++ filling ++ mounting ∧
      Converses (Pool.ensurePresent settings.pool volume (sizeFor settings capacity)) agent.roster
        presenting (.ok presence) roster ∧
      Fills settings now volume roster (agent.fills settings volume presence) filling how last ∧
      ∀ exchange ∈ mounting, Call.IsMounting volume exchange.question := by
  cases course with
  | broken valid present notThere filled failed =>
    exact ⟨_, _, [], _, _, (List.append_nil _).symm, present, filled, fun exchange member =>
      nomatch member⟩
  | unmounted valid present notThere filled settled unmounted =>
    exact ⟨_, _, _, _, _, rfl, present, filled, Pool.asksOnly_ensureMounted unmounted⟩
  | mounted valid present notThere filled settled mounted =>
    exact ⟨_, _, _, _, _, rfl, present, filled, Pool.asksOnly_ensureMounted mounted⟩

/-- A publish asks nothing but what belongs to the care of its volume or to a restore of it, and for
nearest snapshots. -/
theorem Publishes.mem_cases {progress : Progress} {outcome : Except Failure Published}
    (course : Publishes settings now volume target capacity agent exchanges progress outcome
      after) :
    ∀ exchange ∈ exchanges,
      (∃ destination,
        exchange.question = Call.repository (.findNearest destination volume now)) ∨
      Call.IsRestoring volume exchange.question ∨ Call.IsUpkeep volume exchange.question := by
  intro exchange member
  cases progress with
  | refused =>
    cases course
    cases member
  | absent =>
    cases course with
    | absent valid lacking =>
      exact Or.inr (Or.inr (Pool.asksOnly_ensurePresent lacking exchange member))
  | alreadyMounted presence =>
    cases course with
    | alreadyMounted valid present there =>
      exact Or.inr (Or.inr (Pool.asksOnly_ensurePresent present exchange member))
  | presented presence how =>
    obtain ⟨presenting, filling, mounting, roster, last, rfl, present, fills, mounts⟩ :=
      course.parts_of_presented
    rcases List.mem_append.1 member with earlier | mounted
    · rcases List.mem_append.1 earlier with presented | filled
      · exact Or.inr (Or.inr (Pool.asksOnly_ensurePresent present exchange presented))
      · exact (fills.mem_cases exchange filled).imp_right Or.inl
    · exact Or.inr (Or.inr (mounts exchange mounted).isUpkeep)

/-- A publish whose volume was present asks for nearest snapshots where it fills the volume. -/
theorem Publishes.queriesOf_eq {presence : Pool.Presence} {how : Filling}
    {outcome : Except Failure Published}
    (course : Publishes settings now volume target capacity agent exchanges
      (.presented presence how) outcome after) :
    queriesOf exchanges =
      if agent.fills settings volume presence then
        settings.destinations.map (.findNearest · volume now)
      else [] := by
  obtain ⟨presenting, filling, mounting, roster, last, rfl, present, fills, mounts⟩ :=
    course.parts_of_presented
  have presentingNone : queriesOf presenting = [] :=
    queriesOf_eq_nil fun exchange member =>
      (Pool.asksOnly_ensurePresent present exchange member).query?_eq_none
  have mountingNone : queriesOf mounting = [] :=
    queriesOf_eq_nil fun exchange member => (mounts exchange member).isUpkeep.query?_eq_none
  rw [queriesOf_append, queriesOf_append, presentingNone, mountingNone, fills.queriesOf_eq,
    List.append_nil, List.nil_append]

/-- A release asks nothing but what belongs to the mounts of its volume, and for backups of it. -/
theorem Releases.mem_cases {outcome : Except Failure Released}
    (course : Releases settings now volume target agent exchanges outcome after) :
    ∀ exchange ∈ exchanges, Call.IsMounting volume exchange.question ∨
      ∃ destination source time,
        exchange.question = Call.repository (.backup destination volume source time) := by
  intro exchange member
  cases course with
  | refused => cases member
  | unlisted valid looked | missing valid looked =>
    exact Or.inl (Pool.asksOnly_find trivial looked exchange member)
  | @departed _ current _ _ _ _ valid looked departs =>
    rcases List.mem_append.1 member with seen | departed
    · exact Or.inl (Pool.asksOnly_find trivial looked exchange seen)
    generalize agent.skipReason? current volume = reason at departs
    cases departs with
    | stuck left | skipped left =>
      exact Or.inl (Pool.asksOnly_ensureUnmounted left exchange departed)
    | unstaged left staged =>
      rcases List.mem_append.1 departed with leaving | staging
      · exact Or.inl (Pool.asksOnly_ensureUnmounted left exchange leaving)
      · exact Or.inl (Pool.asksOnly_ensureMounted staged exchange staging)
    | backedUp left staged backed freed =>
      rcases List.mem_append.1 departed with leaving | departed
      · exact Or.inl (Pool.asksOnly_ensureUnmounted left exchange leaving)
      rcases List.mem_append.1 departed with staging | departed
      · exact Or.inl (Pool.asksOnly_ensureMounted staged exchange staging)
      rcases List.mem_append.1 departed with backing | ending
      · obtain ⟨destination, asked⟩ := Backup.mem_of_backupAll backed exchange backing
        exact Or.inr ⟨destination, _, _, asked⟩
      · exact Or.inl (Pool.asksOnly_ensureUnmounted freed exchange ending)

end Agent

end NodeAgent
