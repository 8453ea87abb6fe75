/-
This file shows that data moves through the right mounts only. A backup reads the staging path and a
restore writes to it, so at the moment of either the volume has to be mounted there; and what a
restore copies has to come from a mounted snapshot. Earlier calls may have left any mounts behind:
each call looks before it moves anything.
-/

import NodeAgent.Proofs.Backups
import NodeAgent.Proofs.Observing
import NodeAgent.Proofs.Resting
import NodeAgent.Proofs.Restoring

namespace NodeAgent

open Operation

/-- In the course of these exchanges a source was selected to fill the volume from. -/
def Selected (settings : Settings) (now : Instant) (volume : String)
    (exchanges : List (Exchange backends)) (source : Source) : Prop :=
  ∃ asking, asking <:+: exchanges ∧
    Dialogue.Held (Selection.select volume settings.destinations now) asking (some source)

theorem Selected.of_infix {settings : Settings} {now : Instant} {volume : String}
    {exchanges longer : List (Exchange backends)} {source : Source}
    (selected : Selected settings now volume exchanges source) (inside : exchanges <:+: longer) :
    Selected settings now volume longer source := by
  obtain ⟨asking, part, held⟩ := selected
  exact ⟨asking, part.trans inside, held⟩

/-- The call is a publish that selected the source for its volume. -/
def Completed.Selects (settings : Settings) (call : Completed) (source : Source) : Prop :=
  match call with
  | publish now volume _ _ exchanges _ _ => Selected settings now volume exchanges source
  | unpublish _ _ _ _ _ => False

namespace Memory

variable {settings : Settings} {start world middle last : Backends} {agent after : Agent}
  {now : Instant} {volume : String} {target : Path} {first second : List (Exchange backends)}
  {exchanges : List (Exchange backends)}

/-- The volume is mounted at a place. -/
def Backends.MountedAt (world : Backends) (volume : String) (place : Path) : Prop :=
  ∃ size target, world.stored volume = some ⟨size, some target⟩ ∧ target.same place = true

/-- A snapshot of the destination is mounted at a place. -/
def Backends.ServesAt (world : Backends) (destination : Destination) (place : Path) : Prop :=
  ∃ spelled, world.served place = some (spelled, destination.repository)

/-- A question that moves data of a volume goes through the right mounts: a backup reads the staging
path while the volume is mounted there, and a tree is copied to that path, while the volume is
mounted there, out of a mounted snapshot of the chosen source. A short id with a slash in it may
name a path elsewhere. -/
def Guarded (settings : Settings) (volume : String) (chosen : Source → Prop) (world : Backends) :
    Call → Prop
  | .repository (.backup _ name source _) =>
    name = volume ∧ source = settings.volumePoint volume ∧ world.MountedAt volume source
  | .volume (.copyTree content target) =>
    target = settings.volumePoint volume ∧ world.MountedAt volume target ∧
      ∃ source, chosen source ∧
        world.ServesAt source.destination (settings.snapshotPoint volume) ∧
        ('/' ∉ source.snapshot.shortId.toList →
          content.isWithin (settings.snapshotPoint volume) = true)
  | _ => True

/-- Each question of a record is put while the backends are in a state with this property. -/
def Throughout (property : Backends → Call → Prop) (world : Backends)
    (exchanges : List (Exchange backends)) : Prop :=
  ∀ ⦃early exchange late middle⦄, exchanges = early ++ exchange :: late →
    Answered world early middle → property middle exchange.question

/-! ### Records put together -/

namespace Throughout

variable {property : Backends → Call → Prop}

theorem of_forall
    (always : ∀ exchange ∈ exchanges, ∀ middle, property middle exchange.question) :
    Throughout property world exchanges := by
  rintro early exchange late middle rfl _
  exact always exchange (List.mem_append_right _ List.mem_cons_self) middle

theorem append (begun : Throughout property world first)
    (ended : ∀ middle, Answered world first middle → Throughout property middle second) :
    Throughout property world (first ++ second) := by
  intro early exchange late last whole answered
  rcases split_cases_of_append whole with ⟨rest, split, _⟩ | ⟨rest, rfl, split⟩
  · exact begun split answered
  · obtain ⟨middle, reached, further⟩ := Answered.append_iff.1 answered
    exact ended middle reached split further

theorem cons {exchange : Exchange backends} (now : property world exchange.question)
    (further : ∀ middle, Answered world [exchange] middle → Throughout property middle second) :
    Throughout property world (exchange :: second) := by
  have begun : Throughout property world [exchange] := by
    intro early other late middle split answered
    rcases List.append_eq_singleton_iff.1 split.symm with ⟨rfl, same⟩ | ⟨_, same⟩
    · obtain ⟨rfl, _⟩ := List.cons.inj same
      cases answered
      exact now
    · cases same
  exact begun.append further

theorem mono {wider : Backends → Call → Prop} (throughout : Throughout property world exchanges)
    (widens : ∀ middle call, property middle call → wider middle call) :
    Throughout wider world exchanges :=
  fun _ _ _ _ split answered => widens _ _ (throughout split answered)

end Throughout

/-! ### Questions that move nothing -/

theorem Guarded.mono {chosen wider : Source → Prop} {call : Call}
    (guarded : Guarded settings volume chosen world call)
    (widens : ∀ source, chosen source → wider source) :
    Guarded settings volume wider world call := by
  match call, guarded with
  | .volume (.copyTree _ _), ⟨same, mounted, source, choice, serves⟩ =>
    exact ⟨same, mounted, source, widens source choice, serves⟩
  | .repository (.backup _ _ _ _), guarded => exact guarded
  | .volume (.isThin _), _ | .volume (.list _), _ | .volume (.create _ _ _), _
  | .volume (.extend _ _ _), _ | .volume (.remove _ _), _ | .volume (.queryMount _), _
  | .volume (.mount _ _), _ | .volume (.unmount _), _ | .repository (.findNearest _ _ _), _
  | .repository (.mountSnapshot _ _ _), _ | .repository (.unmountSnapshot _ _), _ => trivial

theorem guarded_of_isUpkeep {chosen : Source → Prop} {call : Call} {name : String}
    (upkeep : call.IsUpkeep name) : Guarded settings volume chosen world call := by
  match call, upkeep with
  | .volume (.create _ _ _), _ | .volume (.extend _ _ _), _ | .volume (.remove _ _), _
  | .volume (.list _), _ | .volume (.queryMount _), _ | .volume (.mount _ _), _
  | .volume (.unmount _), _ => trivial

/-- The care of a volume moves no data. -/
theorem guarded_of_asksOnly {Result State : Type} {operation : Operation State Result}
    {name : String} {before after : State} {outcome : Except Failure Result}
    {chosen : Source → Prop} (asksOnly : AsksOnly (Call.IsUpkeep name) operation)
    (conversation : Converses operation before exchanges outcome after) :
    Throughout (Guarded settings volume chosen) world exchanges :=
  .of_forall fun exchange member _ => guarded_of_isUpkeep (asksOnly conversation exchange member)

theorem guarded_of_ensureMounted {pool : ThinPool} {name : String} {before after : Roster}
    {outcome : Except Failure Volume} {chosen : Source → Prop}
    (conversation : Converses (Pool.ensureMounted pool name target) before exchanges outcome
      after) :
    Throughout (Guarded settings volume chosen) world exchanges :=
  guarded_of_asksOnly (Pool.asksOnly_ensureMounted.mono Call.IsMounting.isUpkeep) conversation

theorem guarded_of_ensureUnmounted {pool : ThinPool} {name : String} {before after : Roster}
    {outcome : Except Failure Volume} {chosen : Source → Prop}
    (conversation : Converses (Pool.ensureUnmounted pool name) before exchanges outcome after) :
    Throughout (Guarded settings volume chosen) world exchanges :=
  guarded_of_asksOnly (Pool.asksOnly_ensureUnmounted.mono Call.IsMounting.isUpkeep) conversation

theorem guarded_of_select {chosen : Source → Prop} {selected : Option Source}
    (held : Dialogue.Held (Selection.select volume settings.destinations now) exchanges selected) :
    Throughout (Guarded settings volume chosen) world exchanges := by
  refine .of_forall fun exchange member _ => ?_
  obtain ⟨destination, asked⟩ := Selection.mem_of_select held exchange member
  rw [asked]
  trivial

/-! ### Copies -/

/-- A snapshot that could be mounted is mounted, and its content lies below the mount point. -/
theorem Answered.mountSnapshot_ok {destination : Destination} {snapshot : Snapshot}
    {point content : Path}
    (answered :
      Answered world [.ofRepository (.mountSnapshot destination snapshot point) (.ok content)]
        last) :
    last.volumes = world.volumes ∧ last.ServesAt destination point ∧
      content = (point.entry "ids").entry snapshot.shortId := by
  obtain ⟨given, rfl⟩ := answered.eq_repositoryAnswer
  refine ⟨rfl, ?_⟩
  unfold Backends.ServesAt Backends.served
  dsimp only at given ⊢
  unfold RepositoryStore.answer RepositoryStore.unlessTold RepositoryStore.mount at given ⊢
  dsimp only at given ⊢
  split at given
  · cases given
  split at given
  · cases given
  next works free =>
  rw [if_neg works, if_neg free]
  cases given
  exact ⟨⟨point, Table.get?_insert_self _ _ _⟩, rfl⟩

theorem isWithin_content {place : Path} {id : String} (given : place.text ≠ "")
    (noSlash : '/' ∉ id.toList) :
    ((place.entry "ids").entry id).isWithin place = true :=
  Path.isWithin_entry (Path.text_entry_ne_empty (by decide) (by decide)) noSlash
    (Path.isWithin_entry given (by decide) place.isWithin_refl)

theorem text_snapshotPoint_ne_empty (settings : Settings) (valid : checkVolumeId volume = .ok ()) :
    (settings.snapshotPoint volume).text ≠ "" := by
  refine Path.text_entry_ne_empty (piece_of_checkVolumeId valid).1 ?_
  rintro rfl
  cases valid

/-- A restore copies while the volume and the snapshot are mounted. -/
theorem guarded_of_restore {source : Source} {before after : Roster}
    {outcome : Except Failure Unit} (valid : checkVolumeId volume = .ok ())
    (restoration : Converses (Restore.restore settings.pool volume source
      (settings.volumePoint volume) (settings.snapshotPoint volume)) before exchanges outcome
      after) :
    Throughout (Guarded settings volume (· = source)) world exchanges := by
  cases Restore.restores_of_converses restoration with
  | unstaged refused => exact guarded_of_ensureMounted refused
  | unserved failure staged released =>
    refine .append (guarded_of_ensureMounted staged) fun middle _ => ?_
    exact .cons trivial fun _ _ => guarded_of_ensureUnmounted released
  | copied content copy release staged released =>
    refine .append (guarded_of_ensureMounted staged) fun middle reached => ?_
    refine .cons trivial fun served serving => ?_
    refine .cons ?_ fun _ _ => .cons trivial fun _ _ => guarded_of_ensureUnmounted released
    obtain ⟨sameVolumes, serves, rfl⟩ := serving.mountSnapshot_ok
    have mounted : middle.MountedAt volume (settings.volumePoint volume) :=
      mounts_ok valid (Pool.mounts_of_converses staged) reached
    refine ⟨rfl, ?_, source, rfl, serves, ?_⟩
    · unfold Backends.MountedAt Backends.stored
      rw [sameVolumes]
      exact mounted
    · exact isWithin_content (text_snapshotPoint_ne_empty settings valid)

/-! ### Calls -/

theorem guarded_of_fills {due : Bool} {before final : Roster} {how : Filling}
    (valid : checkVolumeId volume = .ok ())
    (fills : Agent.Fills settings now volume before due exchanges how final) :
    Throughout (Guarded settings volume (Selected settings now volume exchanges)) world
      exchanges := by
  cases fills with
  | unfilled => exact .of_forall (List.forall_mem_nil _)
  | nothingFound selected => exact guarded_of_select selected
  | restored selected restoration | broken selected restoration =>
    refine .append (guarded_of_select selected) fun middle _ => ?_
    refine (guarded_of_restore valid restoration).mono fun _ _ guarded => guarded.mono ?_
    rintro _ rfl
    exact ⟨_, (List.prefix_append _ _).isInfix, selected⟩

theorem guarded_of_publishes {capacity : Option Int} {progress : Progress}
    {outcome : Except Failure Published}
    (course : Agent.Publishes settings now volume target capacity agent exchanges progress outcome
      after) :
    Throughout (Guarded settings volume (Selected settings now volume exchanges)) world
      exchanges := by
  cases progress with
  | refused =>
    cases course
    exact .of_forall (List.forall_mem_nil _)
  | absent =>
    cases course with
    | absent valid lacking => exact guarded_of_asksOnly Pool.asksOnly_ensurePresent lacking
  | alreadyMounted presence =>
    cases course with
    | alreadyMounted valid present =>
      exact guarded_of_asksOnly Pool.asksOnly_ensurePresent present
  | presented presence how =>
    have valid := Agent.checkVolumeId_of_checkPublish course.checkPublish_of_presented
    obtain ⟨presenting, filling, mounting, roster, final, rfl, present, fills, mounts⟩ :=
      course.parts_of_presented
    rw [List.append_assoc]
    refine .append (guarded_of_asksOnly Pool.asksOnly_ensurePresent present) fun _ _ => ?_
    refine .append ?_ fun _ _ => .of_forall fun exchange member _ =>
      guarded_of_isUpkeep (mounts exchange member).isUpkeep
    refine (guarded_of_fills valid fills).mono fun _ _ guarded => guarded.mono ?_
    exact fun source selected => selected.of_infix ⟨presenting, mounting, List.append_assoc _ _ _⟩

/-- A volume that leaves its target is mounted at the staging path while it is backed up. -/
theorem guarded_of_departs {reason : Option String} {before final : Roster}
    {outcome : Except Failure Released} {chosen : Source → Prop}
    (valid : checkVolumeId volume = .ok ())
    (departs : Agent.Departs settings now volume before reason exchanges outcome final) :
    Throughout (Guarded settings volume chosen) world exchanges := by
  cases departs with
  | stuck left | skipped left => exact guarded_of_ensureUnmounted left
  | unstaged left staged =>
    exact .append (guarded_of_ensureUnmounted left) fun _ _ => guarded_of_ensureMounted staged
  | backedUp left staged backed freed =>
    refine .append (guarded_of_ensureUnmounted left) fun first _ => ?_
    refine .append (guarded_of_ensureMounted staged) fun second reached => ?_
    refine .append ?_ fun _ _ => guarded_of_ensureUnmounted freed
    have mounted : second.MountedAt volume (settings.volumePoint volume) :=
      mounts_ok valid (Pool.mounts_of_converses staged) reached
    -- The backups before this one have left the volume where it was mounted.
    rintro early exchange late third rfl answered
    have same : third.stored volume = second.stored volume := by
      refine answered.stored_eq fun earlier member => ?_
      obtain ⟨destination, asked⟩ :=
        Backup.mem_of_backupAll backed earlier (List.mem_append_left _ member)
      rw [asked]
      exact id
    obtain ⟨destination, asked⟩ :=
      Backup.mem_of_backupAll backed exchange (List.mem_append_right _ List.mem_cons_self)
    rw [asked]
    refine ⟨rfl, rfl, ?_⟩
    unfold Backends.MountedAt
    rw [same]
    exact mounted

theorem guarded_of_releases {outcome : Except Failure Released} {chosen : Source → Prop}
    (course : Agent.Releases settings now volume target agent exchanges outcome after) :
    Throughout (Guarded settings volume chosen) world exchanges := by
  have asksOnly : AsksOnly (Call.IsUpkeep volume) (Pool.find settings.pool volume) :=
    Pool.asksOnly_find trivial
  cases course with
  | refused => exact .of_forall (List.forall_mem_nil _)
  | unlisted valid looked | missing valid looked => exact guarded_of_asksOnly asksOnly looked
  | departed valid looked departs =>
    refine .append (guarded_of_asksOnly asksOnly looked) fun _ _ => ?_
    exact guarded_of_departs (Agent.checkVolumeId_of_checkUnpublish valid) departs

theorem guarded_of_step {call : Completed} (step : Step settings agent call after) :
    Throughout (Guarded settings call.volume (call.Selects settings)) world call.exchanges := by
  cases step with
  | publish course => exact guarded_of_publishes course
  | unpublish course => exact guarded_of_releases course

/-! ### Sessions -/

/-- At some moment of a session a call puts a question, and the backends are then in this state. -/
inductive Asks (settings : Settings) (start : Backends) (call : Completed) (middle : Backends) :
    Call → Prop where
  | intro {history agent world after last early exchange late}
      (session : Session settings start history agent world)
      (step : Step settings agent call after) (answered : Answered world call.exchanges last)
      (split : call.exchanges = early ++ exchange :: late)
      (reached : Answered world early middle) :
      Asks settings start call middle exchange.question

/-- Data moves through the right mounts only. Whatever failed before in a session and whatever it
left behind, at the moment of a backup the volume of the call is mounted at the staging path, which
is what the backup reads; and at the moment of a copy the volume is mounted at the staging path,
which is where the copy goes, a snapshot of the selected destination is mounted at the snapshot
point of the volume, and the copy comes from there. -/
theorem moves_through_mounts {call : Completed} {question : Call}
    (asks : Asks settings start call middle question) :
    Guarded settings call.volume (call.Selects settings) middle question := by
  cases asks with
  | intro session step answered split reached => exact guarded_of_step step split reached

/-- The copy of the first publish of a volume. -/
def smallCopy : Call :=
  .volume (.copyTree ⟨"/var/lib/csi/staging/.snapshots/pg/ids/aaaaaaaa"⟩
    ⟨"/var/lib/csi/staging/pg"⟩)

/-- The first publish of a volume copies the snapshot into it. -/
theorem copied_when_published :
    ∃ call middle, Asks (smallSettings .onCreate) smallStart call middle smallCopy ∧
      Guarded (smallSettings .onCreate) "pg" (call.Selects (smallSettings .onCreate)) middle
        smallCopy := by
  obtain ⟨conversation, answered⟩ :=
    smallStart.converses_hold (.fresh .empty) (smallPublish .onCreate)
  obtain ⟨progress, step⟩ := step_publish_iff.2 conversation
  have asked : smallCopy ∈
      callsOf (smallStart.heard ((smallPublish .onCreate).run (.fresh .empty))) := by
    decide +kernel
  obtain ⟨exchange, member, same⟩ := List.mem_map.1 asked
  obtain ⟨early, late, split⟩ := List.append_of_mem member
  have begun : Answered smallStart (early ++ exchange :: late) _ := split ▸ answered
  obtain ⟨middle, reached, _⟩ := Answered.append_iff.1 begun
  have asks := Asks.intro (.fresh .empty) step answered split reached
  rw [same] at asks
  exact ⟨_, middle, asks, moves_through_mounts asks⟩

end Memory

end NodeAgent
