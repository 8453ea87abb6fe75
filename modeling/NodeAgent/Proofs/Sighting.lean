/-
This file asks what stands behind a volume that is reported to be mounted or not to be. The report
and the roster have what the host said when it was last asked where the device of the volume is
mounted. Where nothing had to be mounted or unmounted that is what was asked for. After a mount or
an unmount it can be something else, since the listing that follows is handed on unchecked.
-/

import NodeAgent.Proofs.Templates

namespace NodeAgent

open Operation

/-! ### The last of a name -/

namespace Pool

variable {listed front late : List Volume} {latest volume : Volume} {name : String}

theorem rosterOf_append_singleton (front : List Volume) (latest : Volume) :
    rosterOf (front ++ [latest]) = (rosterOf front).insert latest.name latest := by
  unfold rosterOf Table.ofList
  rw [List.map_append, List.foldl_append]
  rfl

theorem get?_rosterOf_append (others : ∀ other ∈ late, other.name ≠ name) :
    (rosterOf (front ++ late)).get? name = (rosterOf front).get? name := by
  induction late using List.reverseRecOn with
  | nil => rw [List.append_nil]
  | append_singleton late latest inductionHypothesis =>
    obtain ⟨others, different⟩ := List.forall_mem_append.1 others
    have other := List.forall_mem_singleton.1 different
    rw [← List.append_assoc, rosterOf_append_singleton,
      Table.get?_insert_other _ _ (Ne.symm other), inductionHypothesis others]

/-- Of volumes with the same name the roster has the last. -/
theorem get?_rosterOf_iff :
    (rosterOf listed).get? name = some volume ↔
      ∃ early late, listed = early ++ volume :: late ∧ volume.name = name ∧
        ∀ other ∈ late, other.name ≠ name := by
  constructor
  · intro there
    induction listed using List.reverseRecOn with
    | nil => cases there
    | append_singleton front latest inductionHypothesis =>
      rw [rosterOf_append_singleton] at there
      by_cases same : name = latest.name
      · rw [same, Table.get?_insert_self] at there
        cases there
        exact ⟨front, [], rfl, same.symm, nofun⟩
      · rw [Table.get?_insert_other _ _ same] at there
        obtain ⟨early, late, rfl, named, others⟩ := inductionHypothesis there
        refine ⟨early, late ++ [latest], by simp, named, ?_⟩
        exact List.forall_mem_append.2 ⟨others, List.forall_mem_singleton.2 (Ne.symm same)⟩
  · rintro ⟨early, late, rfl, rfl, others⟩
    rw [List.append_cons, get?_rosterOf_append others, rosterOf_append_singleton,
      Table.get?_insert_self]

end Pool

namespace Tools

open HostTask Volumes

/-! ### Looking -/

/-- What is found where a device is mounted, if the query for it goes this way. -/
def foundBy (limit : Nat) (device : Path) (outcome : Outcome) : Except Failure (Option Path) :=
  outcome.output (mountQuery device) limit >>= queryResult device

/-- A query for the mount of a device, and how it went. -/
def Exchange.ofQuery (limit : Nat) (device : Path) (outcome : Outcome) : Exchange host :=
  ⟨.run (mountQuery device) limit, outcome⟩

variable {limit : Nat} {device : Path} {heard : List (Exchange host)}

theorem run_queryMount (limit : Nat) (device : Path) :
    ExceptT.run (queryMount limit device) =
      @Dialogue.ask NodeAgent.host _ (.run (mountQuery device) limit) fun outcome =>
        .done (foundBy limit device outcome) := by
  refine congrArg (@Dialogue.ask NodeAgent.host _ (.run (mountQuery device) limit))
    (funext fun (outcome : Outcome) => ?_)
  cases outcome with
  | ended | unstarted | overdue => rfl

theorem held_queryMount_iff {answered : Except Failure (Option Path)} :
    Dialogue.Held (ExceptT.run (queryMount limit device)) heard answered ↔
      ∃ outcome, heard = [Exchange.ofQuery limit device outcome] ∧
        answered = foundBy limit device outcome := by
  rw [run_queryMount]
  exact held_ask_done_iff

theorem run_run (limit : Nat) (invocation : Invocation) :
    ExceptT.run (HostTask.run limit invocation) =
      @Dialogue.ask NodeAgent.host _ (.run invocation limit) fun outcome =>
        .done (outcome.output invocation limit >>= Output.checked invocation) := by
  refine congrArg (@Dialogue.ask NodeAgent.host _ (.run invocation limit))
    (funext fun (outcome : Outcome) => ?_)
  cases outcome with
  | ended | unstarted | overdue => rfl

theorem held_run_iff {invocation : Invocation} {ended : Except Failure Output} :
    Dialogue.Held (ExceptT.run (HostTask.run limit invocation)) heard ended ↔
      ∃ outcome : Outcome, heard = [⟨.run invocation limit, outcome⟩] ∧
        ended = outcome.output invocation limit >>= Output.checked invocation := by
  rw [run_run]
  exact held_ask_done_iff

/-- How asking for each of some volumes where it is mounted goes where no query fails. -/
inductive Looks (limit : Nat) : List Volume → List (Exchange NodeAgent.host) → List Volume → Prop
  where
  | nil : Looks limit [] [] []
  | cons {volume : Volume} {outcome : Outcome} {found : Option Path} {rest seen : List Volume}
      {heard : List (Exchange NodeAgent.host)}
      (answered : foundBy limit volume.device outcome = .ok found)
      (others : Looks limit rest heard seen) :
      Looks limit (volume :: rest) (Exchange.ofQuery limit volume.device outcome :: heard)
        (volume.withTarget found :: seen)

theorem looks_of_held {rows seen : List Volume}
    (held : Dialogue.Held (ExceptT.run (queryMounts limit rows)) heard (.ok seen)) :
    Looks limit rows heard seen := by
  induction rows generalizing heard seen with
  | nil =>
    cases held
    exact .nil
  | cons volume rest inductionHypothesis =>
    obtain ⟨_, _, found, rfl, query, held⟩ := HostTask.steps_of_held_bind held
    obtain ⟨_, _, others, rfl, looking, ended⟩ := HostTask.steps_of_held_bind held
    obtain ⟨outcome, rfl, answered⟩ := held_queryMount_iff.1 query
    cases ended
    rw [List.append_nil]
    exact .cons answered.symm (inductionHypothesis looking)

/-- The host was asked where the device of the volume is mounted, this is what was found, and later
it was only asked about volumes with other names. -/
def LastLook (limit : Nat) (heard : List (Exchange NodeAgent.host)) (volume : Volume)
    (found : Option Path) : Prop :=
  ∃ early outcome late, heard = early ++ Exchange.ofQuery limit volume.device outcome :: late ∧
    foundBy limit volume.device outcome = .ok found ∧
    ∀ exchange ∈ late, ∃ other : Volume, other.name ≠ volume.name ∧
      exchange.question = .run (mountQuery other.device) limit

theorem LastLook.append_left {volume : Volume} {found : Option Path}
    (look : LastLook limit heard volume found) (before : List (Exchange NodeAgent.host)) :
    LastLook limit (before ++ heard) volume found := by
  obtain ⟨early, outcome, late, rfl, answered, others⟩ := look
  exact ⟨before ++ early, outcome, late, (List.append_assoc ..).symm, answered, others⟩

/-- The queries for the mounts of some volumes are the only questions. -/
theorem Looks.queries {rows seen : List Volume} (looks : Looks limit rows heard seen) :
    ∀ exchange ∈ heard, ∃ volume ∈ seen,
      exchange.question = .run (mountQuery volume.device) limit := by
  induction looks with
  | nil => exact fun _ member => nomatch member
  | cons answered others inductionHypothesis =>
    refine List.forall_mem_cons.2 ⟨⟨_, List.mem_cons_self, rfl⟩, fun exchange member => ?_⟩
    obtain ⟨volume, known, asked⟩ := inductionHypothesis exchange member
    exact ⟨volume, List.mem_cons_of_mem _ known, asked⟩

theorem Looks.lastLook {rows seen early late : List Volume} {volume : Volume}
    (looks : Looks limit rows heard seen) (split : seen = early ++ volume :: late)
    (others : ∀ other ∈ late, other.name ≠ volume.name) :
    ∃ found, LastLook limit heard volume found ∧ volume.withTarget found = volume := by
  induction looks generalizing early with
  | nil => cases early <;> cases split
  | @cons row outcome found rest seen heard answered remaining inductionHypothesis =>
    cases early with
    | nil =>
      cases split
      refine ⟨found, ⟨[], outcome, heard, rfl, answered, fun exchange member => ?_⟩, rfl⟩
      obtain ⟨other, known, asked⟩ := remaining.queries exchange member
      exact ⟨other, others other known, asked⟩
    | cons first early =>
      cases split
      obtain ⟨found, look, same⟩ := inductionHypothesis rfl
      exact ⟨found, look.append_left [_], same⟩

/-! ### Answers of the tools -/

section

variable {toolbox : Toolbox} {servers last : Servers}
  {exchanges first second : List (Exchange backends)} {pool : ThinPool} {name : String}
  {target : Path} {before after : Roster} {volume : Volume}

theorem Toolbox.Served.of_append (served : toolbox.Served servers (first ++ second) heard last) :
    ∃ middle early late, heard = early ++ late ∧ toolbox.Served servers first early middle ∧
      toolbox.Served middle second late last := by
  induction first generalizing servers heard with
  | nil => exact ⟨servers, [], heard, rfl, .nil servers, served⟩
  | cons exchange rest inductionHypothesis =>
    cases served with
    | cons call answer held served =>
      obtain ⟨middle, early, late, rfl, begun, ended⟩ := inductionHypothesis served
      exact ⟨middle, _, late, (List.append_assoc ..).symm, .cons call answer held begun, ended⟩

theorem Toolbox.Served.of_cons {exchange : Exchange backends}
    (served : toolbox.Served servers (exchange :: second) heard last) :
    ∃ middle early late, heard = early ++ late ∧ toolbox.Served servers [exchange] early middle ∧
      toolbox.Served middle second late last :=
  Toolbox.Served.of_append
    (show toolbox.Served servers ([exchange] ++ second) heard last from served)

/-- The volume tools answer a call, and the serving programs stay as they are. -/
theorem Toolbox.served_volume_iff {call : VolumeCall} {answer : Except Failure call.Result} :
    toolbox.Served servers [.ofVolume call answer] heard last ↔
      Dialogue.Held (ExceptT.run (Volumes.answer toolbox.volumeLimit call)) heard answer ∧
        last = servers := by
  refine Toolbox.served_singleton_iff.trans (held_andThen_done_iff.trans ?_)
  constructor
  · rintro ⟨outcome, asked, same⟩
    cases same
    exact ⟨asked, rfl⟩
  · rintro ⟨asked, rfl⟩
    exact ⟨answer, asked, rfl⟩

theorem Toolbox.Served.held_answer {call : VolumeCall} {answer : Except Failure call.Result}
    (served : toolbox.Served servers [.ofVolume call answer] heard last) :
    Dialogue.Held (ExceptT.run (Volumes.answer toolbox.volumeLimit call)) heard answer :=
  (Toolbox.served_volume_iff.1 served).1

/-- A listing ends with the queries for the mounts of what is listed. -/
theorem looks_of_held_list {volumes : List Volume}
    (held : Dialogue.Held (ExceptT.run (Volumes.list limit pool)) heard (.ok volumes)) :
    ∃ rows early looking, heard = early ++ looking ∧ Looks limit rows looking volumes := by
  obtain ⟨first, _, output, rfl, _, held⟩ := HostTask.steps_of_held_bind held
  obtain ⟨second, looking, rows, rfl, _, held⟩ := HostTask.steps_of_held_bind held
  exact ⟨rows, first ++ second, looking, (List.append_assoc ..).symm, looks_of_held held⟩

/-- What is reported of a volume and recorded is what was found when the host was last asked where
its device is mounted. -/
structure Reported (limit : Nat) (heard : List (Exchange NodeAgent.host)) (name : String)
    (volume : Volume) (after : Roster) (found : Option Path) : Prop where
  recorded : after.get? name = some volume
  named : volume.name = name
  look : LastLook limit heard volume found
  shown : volume.withTarget found = volume

theorem reported_of_requires
    (required : Pool.Requires pool name before exchanges (.ok volume) after)
    (served : toolbox.Served servers exchanges heard last) :
    ∃ found, Reported toolbox.volumeLimit heard name volume after found := by
  cases required with
  | found volumes _ there =>
    obtain ⟨rows, early, looking, rfl, looks⟩ := looks_of_held_list served.held_answer
    obtain ⟨front, late, split, named, others⟩ := Pool.get?_rosterOf_iff.1 there
    rw [← named] at others
    obtain ⟨found, look, shown⟩ := looks.lastLook split others
    exact ⟨found, there, named, look.append_left early, shown⟩

theorem Reported.append_left {found : Option Path}
    (reported : Reported limit heard name volume after found)
    (before : List (Exchange NodeAgent.host)) :
    Reported limit (before ++ heard) name volume after found :=
  ⟨reported.recorded, reported.named, reported.look.append_left before, reported.shown⟩

/-- A query after a listing is the last look. -/
theorem reported_of_record {found : Option Path}
    (required : Pool.Requires pool name before exchanges (.ok volume) after)
    (served : toolbox.Served servers
      (exchanges ++ [.ofVolume (.queryMount volume.device) (.ok found)]) heard last) :
    Reported toolbox.volumeLimit heard name (volume.withTarget found)
      (after.insert name (volume.withTarget found)) found := by
  obtain ⟨middle, early, late, rfl, listed, queried⟩ := served.of_append
  have named : volume.name = name := by
    obtain ⟨_, listing⟩ := reported_of_requires required listed
    exact listing.named
  obtain ⟨outcome, rfl, answered⟩ := held_queryMount_iff.1 queried.held_answer
  exact ⟨Table.get?_insert_self .., named, ⟨early, outcome, [], rfl, answered.symm, nofun⟩, rfl⟩

/-- After the mounts were changed the listing that follows is the last look. -/
theorem reported_of_change {call : VolumeCall} {result : call.Result} {query : Exchange backends}
    {looking again : List (Exchange backends)} {seen : Roster}
    (listed : Pool.Requires pool name seen again (.ok volume) after)
    (served : toolbox.Served servers
      (looking ++ query :: .ofVolume call (.ok result) :: again) heard last) :
    (∃ found, Reported toolbox.volumeLimit heard name volume after found) ∧
      ∃ running, running ⊆ heard ∧ Dialogue.Held
        (ExceptT.run (Volumes.answer toolbox.volumeLimit call)) running (.ok result) := by
  obtain ⟨_, early, _, rfl, _, asking⟩ := served.of_append
  obtain ⟨_, querying, _, rfl, _, following⟩ := asking.of_cons
  obtain ⟨_, running, listing, rfl, changed, relisted⟩ := following.of_cons
  obtain ⟨found, reported⟩ := reported_of_requires listed relisted
  refine ⟨⟨found, ((reported.append_left running).append_left querying).append_left early⟩,
    running, fun exchange member => ?_, changed.held_answer⟩
  simp [member]

/-- A program that was run and succeeded was run. -/
theorem exists_run_of_held {invocation : Invocation} {output : Output}
    (held : Dialogue.Held (ExceptT.run (HostTask.run limit invocation)) heard (.ok output)) :
    ∃ exchange ∈ heard, exchange.question = .run invocation limit := by
  obtain ⟨outcome, rfl, _⟩ := held_run_iff.1 held
  exact ⟨_, List.mem_cons_self, rfl⟩

/-- A mount that comes out well runs the program for it. -/
theorem exists_mounting_of_held
    (held : Dialogue.Held (ExceptT.run (Volumes.answer limit (.mount device target))) heard
      (.ok ())) :
    ∃ exchange ∈ heard, exchange.question = .run (mounting device target) limit := by
  obtain ⟨_, _, _, rfl, _, held⟩ := HostTask.steps_of_held_bind held
  obtain ⟨_, _, _, rfl, ran, _⟩ := HostTask.steps_of_held_bind held
  obtain ⟨exchange, member, asked⟩ := exists_run_of_held ran
  exact ⟨exchange, List.mem_append_right _ (List.mem_append_left _ member), asked⟩

/-- So does an unmount. -/
theorem exists_unmounting_of_held
    (held : Dialogue.Held (ExceptT.run (Volumes.answer limit (.unmount device))) heard (.ok ())) :
    ∃ exchange ∈ heard, exchange.question = .run (unmounting device) limit := by
  obtain ⟨_, _, _, rfl, ran, _⟩ := HostTask.steps_of_held_bind held
  obtain ⟨exchange, member, asked⟩ := exists_run_of_held ran
  exact ⟨exchange, List.mem_append_left _ member, asked⟩

/-! ### The helpers -/

theorem isMountedAt_iff_of_shown {found : Option Path} (shown : volume.withTarget found = volume) :
    volume.isMountedAt target = true ↔ ∃ place, found = some place ∧ place.same target = true := by
  rw [← shown]
  cases found with
  | none => exact iff_of_false nofun nofun
  | some place => simp [Volume.withTarget, Volume.isMountedAt]

theorem unmounted_iff_of_shown {found : Option Path} (shown : volume.withTarget found = volume) :
    volume.mounted = false ∧ volume.target = none ↔ found = none := by
  rw [← shown]
  cases found with
  | none => exact iff_of_true ⟨rfl, rfl⟩ rfl
  | some place => exact iff_of_false nofun nofun

/-- Making sure that a volume is mounted reports the last look. That is at the target, unless it was
taken after a mount. -/
theorem reported_of_mounts
    (mounts : Pool.Mounts pool name target before exchanges (.ok volume) after)
    (served : toolbox.Served servers exchanges heard last) :
    ∃ found, Reported toolbox.volumeLimit heard name volume after found ∧
      (volume.isMountedAt target = true ∨ ∃ exchange ∈ heard, ∃ device,
        exchange.question = .run (mounting device target) toolbox.volumeLimit) := by
  cases mounts with
  | @already looking found seen place required same =>
    have reported := reported_of_record required served
    exact ⟨_, reported, .inl ((isMountedAt_iff_of_shown reported.shown).2 ⟨place, rfl, same⟩)⟩
  | mounted required listed =>
    -- Nothing is said about what was found: the listing is handed on as it is.
    obtain ⟨⟨found, reported⟩, running, part, held⟩ := reported_of_change listed served
    obtain ⟨exchange, member, asked⟩ := exists_mounting_of_held held
    exact ⟨found, reported, .inr ⟨exchange, part member, _, asked⟩⟩

/-- Making sure that a volume is not mounted reports the last look. That finds nothing, unless it
was taken after an unmount. -/
theorem reported_of_unmounts
    (unmounts : Pool.Unmounts pool name before exchanges (.ok volume) after)
    (served : toolbox.Served servers exchanges heard last) :
    ∃ found, Reported toolbox.volumeLimit heard name volume after found ∧
      (found = none ∨ ∃ exchange ∈ heard, ∃ device,
        exchange.question = .run (unmounting device) toolbox.volumeLimit) := by
  cases unmounts with
  | already required => exact ⟨_, reported_of_record required served, .inl rfl⟩
  | unmounted place required listed =>
    obtain ⟨⟨found, reported⟩, running, part, held⟩ := reported_of_change listed served
    obtain ⟨exchange, member, asked⟩ := exists_unmounting_of_held held
    exact ⟨found, reported, .inr ⟨exchange, part member, _, asked⟩⟩

/-- Whatever the host answers, a volume that is made sure to be mounted or not to be is recorded as
it is reported, and the report is what was found when the host was last asked where its device is
mounted. So it is what was asked for exactly where that was found, and it is unless a program was
run to mount or to unmount the volume. -/
theorem mount_helpers_report_last_look (toolbox : Toolbox) (servers : Servers) (pool : ThinPool)
    (name : String) (before : Roster) :
    (∀ target heard volume after last,
      Dialogue.Held (toolbox.hold servers before (Pool.ensureMounted pool name target)) heard
        ((.ok volume, after), last) →
      after.get? name = some volume ∧ ∃ found, LastLook toolbox.volumeLimit heard volume found ∧
        (volume.isMountedAt target = true ↔
          ∃ place, found = some place ∧ place.same target = true) ∧
        (volume.isMountedAt target = true ∨ ∃ exchange ∈ heard, ∃ device,
          exchange.question = .run (mounting device target) toolbox.volumeLimit)) ∧
      ∀ heard volume after last,
        Dialogue.Held (toolbox.hold servers before (Pool.ensureUnmounted pool name)) heard
          ((.ok volume, after), last) →
        after.get? name = some volume ∧ ∃ found, LastLook toolbox.volumeLimit heard volume found ∧
          (volume.mounted = false ∧ volume.target = none ↔ found = none) ∧
          (volume.mounted = false ∧ volume.target = none ∨ ∃ exchange ∈ heard, ∃ device,
            exchange.question = .run (unmounting device) toolbox.volumeLimit) := by
  constructor
  · intro target heard volume after last held
    obtain ⟨exchanges, conversation, served⟩ := Toolbox.held_hold_iff.1 held
    obtain ⟨found, reported, there⟩ :=
      reported_of_mounts (Pool.mounts_of_converses conversation) served
    exact ⟨reported.recorded, found, reported.look, isMountedAt_iff_of_shown reported.shown, there⟩
  · intro heard volume after last held
    obtain ⟨exchanges, conversation, served⟩ := Toolbox.held_hold_iff.1 held
    obtain ⟨found, reported, nowhere⟩ :=
      reported_of_unmounts (Pool.unmounts_of_converses conversation) served
    have free := unmounted_iff_of_shown reported.shown
    exact ⟨reported.recorded, found, reported.look, free, nowhere.imp_left free.2⟩

end

end Tools

namespace Memory

/-! ### A device that is mounted twice -/

/-- A line of a script: the program writes a text. -/
def writes (text : String) : ScriptLine := .ends ⟨some 0, Text.octets text, []⟩

/-- A line of a script: the listing of one volume. -/
def listsOne : ScriptLine :=
  writes ("\x7b\"report\": [\x7b\"lv\": [\x7b\"lv_name\": \"pg\", \"vg_name\": \"vg0\", " ++
    "\"lv_attr\": \"V\", \"lv_size\": \"1B\"\x7d]\x7d]\x7d")

/-- A line of a script: the device is not mounted. -/
def findsNothing : ScriptLine := .ends ⟨some 1, [], []⟩

/-- What a host is asked to make sure that the volume is mounted. -/
def mountingOne : Dialogue host ((Except Failure Volume × Roster) × Tools.Servers) :=
  Tools.Toolbox.hold ⟨1000, ⟨"node-a", 1000⟩⟩ .empty .empty
    (Pool.ensureMounted ⟨"vg0", "pool"⟩ "pg" ⟨"/mnt/a"⟩)

/-- What a host is asked to make sure that the volume is not mounted. -/
def unmountingOne : Dialogue host ((Except Failure Volume × Roster) × Tools.Servers) :=
  Tools.Toolbox.hold ⟨1000, ⟨"node-a", 1000⟩⟩ .empty .empty
    (Pool.ensureUnmounted ⟨"vg0", "pool"⟩ "pg")

/-- A host that finds the device mounted nowhere, mounts it, and then finds this. -/
def mountingHost (found : ScriptLine) : ScriptedHost :=
  .begin [listsOne, findsNothing, findsNothing, writes "", listsOne, found] []

/-- A host that finds the device mounted, unmounts it, and then finds this. -/
def unmountingHost (found : ScriptLine) : ScriptedHost :=
  .begin [listsOne, writes "/mnt/a\n", writes "/mnt/a\n", writes "", listsOne, found] []

/-- What a scripted host is asked goes as it answers. -/
theorem exists_held_of_ok {world : ScriptedHost}
    {dialogue : Dialogue host ((Except Failure Volume × Roster) × Tools.Servers)} {volume : Volume}
    (well : (world.hold dialogue).1.1.1 = .ok volume) :
    ∃ heard after last, Dialogue.Held dialogue heard ((.ok volume, after), last) := by
  obtain ⟨heard, held, _⟩ := world.held_and_started (fun _ => True) dialogue
  generalize (world.hold dialogue).1 = all at well held
  obtain ⟨⟨outcome, after⟩, last⟩ := all
  cases well
  exact ⟨heard, after, last, held⟩

/-- A device can be mounted at two places. Then a volume is reported to be mounted elsewhere than it
was asked for, and another to be mounted that was to be unmounted, and neither is a failure. -/
theorem reported_with_second_mount :
    (∃ heard volume after last,
      Dialogue.Held mountingOne heard ((.ok volume, after), last) ∧
        volume.isMountedAt ⟨"/mnt/a"⟩ = false) ∧
      ∃ heard volume after last,
        Dialogue.Held unmountingOne heard ((.ok volume, after), last) ∧
          volume.mounted = true ∧ volume.target = some ⟨"/mnt/b"⟩ := by
  constructor
  · have well : ((mountingHost (writes "/mnt/b\n/mnt/a\n")).hold mountingOne).1.1.1 =
        .ok ⟨"pg", "vg0", "V", ⟨1⟩, true, some ⟨"/mnt/b"⟩⟩ := by decide +kernel
    obtain ⟨heard, after, last, held⟩ := exists_held_of_ok well
    exact ⟨heard, _, after, last, held, by decide +kernel⟩
  · have well : ((unmountingHost (writes "/mnt/b\n")).hold unmountingOne).1.1.1 =
        .ok ⟨"pg", "vg0", "V", ⟨1⟩, true, some ⟨"/mnt/b"⟩⟩ := by decide +kernel
    obtain ⟨heard, after, last, held⟩ := exists_held_of_ok well
    exact ⟨heard, _, after, last, held, rfl, rfl⟩

/-- Where the device is mounted once, the volume is reported to be mounted and unmounted as it was
asked for, and the last look says so. -/
theorem reported_with_one_mount :
    (∃ heard volume after last found,
      Dialogue.Held mountingOne heard ((.ok volume, after), last) ∧
        after.get? "pg" = some volume ∧ Tools.LastLook 1000 heard volume (some found) ∧
        found.same ⟨"/mnt/a"⟩ = true) ∧
      ∃ heard volume after last,
        Dialogue.Held unmountingOne heard ((.ok volume, after), last) ∧
          after.get? "pg" = some volume ∧ Tools.LastLook 1000 heard volume none := by
  have reports := Tools.mount_helpers_report_last_look ⟨1000, ⟨"node-a", 1000⟩⟩ .empty
    ⟨"vg0", "pool"⟩ "pg" .empty
  constructor
  · have well : ((mountingHost (writes "/mnt/a\n")).hold mountingOne).1.1.1 =
        .ok ⟨"pg", "vg0", "V", ⟨1⟩, true, some ⟨"/mnt/a"⟩⟩ := by decide +kernel
    obtain ⟨heard, after, last, held⟩ := exists_held_of_ok well
    obtain ⟨recorded, found, look, mounted, _⟩ := reports.1 ⟨"/mnt/a"⟩ heard _ after last held
    obtain ⟨place, rfl, same⟩ := mounted.1 (by decide +kernel)
    exact ⟨heard, _, after, last, place, held, recorded, look, same⟩
  · have well : ((unmountingHost findsNothing).hold unmountingOne).1.1.1 =
        .ok ⟨"pg", "vg0", "V", ⟨1⟩, false, none⟩ := by decide +kernel
    obtain ⟨heard, after, last, held⟩ := exists_held_of_ok well
    obtain ⟨recorded, found, look, free, _⟩ := reports.2 heard _ after last held
    obtain rfl := free.1 ⟨rfl, rfl⟩
    exact ⟨heard, _, after, last, held, recorded, look⟩

end Memory

end NodeAgent
