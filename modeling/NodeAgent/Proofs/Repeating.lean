/-
This file repeats calls. What a call that came out well leaves behind is what the same call finds:
the volume is where it was asked for, and the roster shows the volumes as they are stored. So the
second call looks and does nothing. Failures may be set in between as long as the second call can
look.
-/

import NodeAgent.Proofs.Retrying

namespace NodeAgent

open Operation

/-! ### Targets -/

theorem isAbsolute_of_checkTargetPath {path : Path} (valid : checkTargetPath path = .ok ()) :
    path.isAbsolute = true := by
  unfold checkTargetPath at valid
  by_cases empty : path.text = ""
  · rw [if_pos empty] at valid
    cases valid
  · rw [if_neg empty] at valid
    cases absolute : path.isAbsolute with
    | true => rfl
    | false =>
      rw [absolute] at valid
      cases valid

/-- Only an absolute path has the root among its components. -/
theorem Path.root_mem_components_iff {path : Path} :
    .root ∈ path.components ↔ path.isAbsolute = true := by
  cases absolute : path.isAbsolute with
  | true =>
    rw [components_of_isAbsolute absolute]
    exact iff_of_true List.mem_cons_self rfl
  | false =>
    rw [components_of_relative absolute]
    refine iff_of_false (fun member => ?_) Bool.false_ne_true
    rcases List.mem_append.1 member with first | step
    · split at first
      · cases List.mem_singleton.1 first
      · cases first
    · cases (of_mem_steps step).2

/-- Where one of two paths to the same place is absolute, so is the other. -/
theorem Path.isAbsolute_of_same {first second : Path} (same : first.same second = true)
    (absolute : second.isAbsolute = true) : first.isAbsolute = true := by
  rw [← root_mem_components_iff] at absolute ⊢
  rw [of_decide_eq_true same]
  exact absolute

/-- A volume is mounted at every path to the place it is mounted at. -/
theorem Volume.isMountedAt_of_same {volume : Volume} {first second : Path}
    (same : first.same second = true) (there : volume.isMountedAt second = true) :
    volume.isMountedAt first = true := by
  have components : first.components = second.components := of_decide_eq_true same
  unfold isMountedAt Path.same at there ⊢
  rw [components]
  exact there

/-! ### Looking -/

namespace Pool

variable {pool : ThinPool} {name : String} {least : Size} {before : Roster} {volumes : List Volume}
  {volume : Volume}

theorem converses_find_of_listed :
    Converses (find pool name) before [.ofVolume (.list pool) (.ok volumes)]
      (.ok ((rosterOf volumes).get? name)) (rosterOf volumes) :=
  @Dialogue.Held.ask backends _ (.volume (.list pool)) _ (.ok volumes) _ _ (.done _)

theorem converses_require_of_listed (there : (rosterOf volumes).get? name = some volume) :
    Converses (require pool name) before [.ofVolume (.list pool) (.ok volumes)] (.ok volume)
      (rosterOf volumes) := by
  refine converses_bind_iff.2 (Or.inl ⟨_, [], _, _, rfl, converses_find_of_listed, ?_⟩)
  rw [there]
  exact .done _

/-- A volume that is listed and large enough is left as it is. -/
theorem converses_ensurePresent_of_listed (there : (rosterOf volumes).get? name = some volume)
    (positive : 0 < least.bytes) (enough : least.bytes ≤ volume.size.bytes) :
    Converses (ensurePresent pool name least) before [.ofVolume (.list pool) (.ok volumes)]
      (.ok ⟨volume, .unchanged⟩) (rosterOf volumes) := by
  unfold ensurePresent
  rw [if_neg (Int.not_le.2 positive)]
  refine converses_bind_iff.2 (Or.inl ⟨_, [], _, _, rfl, converses_find_of_listed, ?_⟩)
  rw [there]
  dsimp only
  rw [if_neg (Int.not_lt.2 enough)]
  exact .done _

/-- A volume that is listed and found not to be mounted is left as it is. -/
theorem converses_ensureUnmounted_of_listed (there : (rosterOf volumes).get? name = some volume) :
    Converses (ensureUnmounted pool name) before
      [.ofVolume (.list pool) (.ok volumes), .ofVolume (.queryMount volume.device) (.ok none)]
      (.ok (volume.withTarget none)) ((rosterOf volumes).insert name (volume.withTarget none)) := by
  refine converses_bind_iff.2
    (Or.inl ⟨_, [_], _, _, rfl, converses_require_of_listed there, ?_⟩)
  exact @Dialogue.Held.ask backends _ (.volume (.queryMount volume.device)) _ (.ok none) _ _
    (.done _)

end Pool

namespace Memory

variable {settings : Settings} {agent after : Agent} {world last : Backends} {now : Instant}
  {volume name : String} {target : Path} {exchanges : List (Exchange backends)}

/-! ### What is shown -/

/-- A volume as a listing shows it. -/
def Backends.shown (world : Backends) (name : String) : Option Volume :=
  (world.stored name).map (world.volumes.listed name)

/-- The roster has all volumes as they are stored. -/
def Backends.Shows (world : Backends) (roster : Roster) : Prop :=
  ∀ name, roster.get? name = world.shown name

/-- All volumes as a listing shows them. -/
def Backends.listing (world : Backends) : List Volume :=
  world.volumes.volumes.entries.map fun entry => world.volumes.listed entry.1 entry.2

/-- The backends once they were asked for what they only look up. -/
def Backends.asked (world : Backends) (calls : List VolumeCall) : Backends :=
  { world with volumes := { world.volumes with calls := world.volumes.calls ++ calls } }

theorem Backends.shows_rosterOf_listing (world : Backends) :
    world.Shows (Pool.rosterOf world.listing) :=
  world.volumes.get?_rosterOf_entries

/-- Only one roster has all volumes as they are stored. -/
theorem Backends.Shows.eq {first second : Roster} (shows : world.Shows first)
    (also : world.Shows second) : first = second :=
  Table.ext_get? fun name => (shows name).trans (also name).symm

/-- What is stored as before is shown as before. -/
theorem Answered.shown_eq (answered : Answered world exchanges last)
    (kept : last.stored name = world.stored name) : last.shown name = world.shown name := by
  unfold Backends.shown VolumeStore.listed
  rw [kept, answered.sameSetup.group]

/-- A volume that was looked up and found is shown, and so are all others. -/
theorem shows_of_requires {pool : ThinPool} {before seen : Roster} {found : Volume}
    (required : Pool.Requires pool name before exchanges (.ok found) seen)
    (answered : Answered world exchanges last) :
    last.Shows seen ∧ last.shown name = some found := by
  have shown (other : String) : last.shown other = world.shown other :=
    answered.shown_eq (requires_stored_eq required answered other)
  cases required with
  | found volumes _ there =>
    have listed := answered.list_ok.2
    exact ⟨fun other => (listed other).trans (shown other).symm,
      (shown name).trans ((listed name).symm.trans there)⟩

/-- A volume that was made sure to be there is shown, and so are all others. -/
theorem shows_of_presents {pool : ThinPool} {least : Size} {before seen : Roster}
    {presence : Pool.Presence}
    (presents : Pool.Presents pool name least before exchanges (.ok presence) seen)
    (answered : Answered world exchanges last) :
    last.Shows seen ∧ last.shown name = some presence.volume := by
  cases presents with
  | created volumes notThere required | extended volumes existing there smaller required =>
    obtain ⟨_, _, following⟩ := Answered.cons_iff.1 answered
    obtain ⟨_, _, relisted⟩ := Answered.cons_iff.1 following
    exact shows_of_requires required relisted
  | unchanged volumes existing there =>
    have required : Pool.Requires pool name before _ (.ok _) _ := .found volumes existing there
    exact shows_of_requires required answered

/-- A volume that was looked up is recorded with the mount that was found, which is the one it is
shown with. -/
theorem shows_of_record {pool : ThinPool} {before seen : Roster} {found : Volume}
    {current : Option Path} {looking : List (Exchange backends)}
    (valid : checkVolumeId name = .ok ())
    (required : Pool.Requires pool name before looking (.ok found) seen)
    (answered : Answered world (looking ++ [.ofVolume (.queryMount found.device) (.ok current)])
      last) :
    last.Shows (seen.insert name (found.withTarget current)) ∧
      last.shown name = some (found.withTarget current) := by
  obtain ⟨_, looked, _⟩ := looked_of_requires valid required answered
  obtain ⟨middle, listed, queried⟩ := Answered.append_iff.1 answered
  obtain ⟨shows, shown⟩ := shows_of_requires required listed
  obtain ⟨size, there⟩ := looked.there
  have same : found.withTarget current = found := by
    obtain ⟨_, stored, is, rfl⟩ := requires_ok required listed
    rw [there] at is
    cases is
    rfl
  have kept (other : String) : last.shown other = middle.shown other :=
    queried.shown_eq (queried.stored_eq_of_query other)
  rw [same, Table.insert_of_get? ((shows name).trans shown)]
  exact ⟨fun other => (shows other).trans (kept other).symm, (kept name).trans shown⟩

theorem shows_of_mounts {pool : ThinPool} {before seen : Roster} {found : Volume}
    (valid : checkVolumeId name = .ok ())
    (mounts : Pool.Mounts pool name target before exchanges (.ok found) seen)
    (answered : Answered world exchanges last) :
    last.Shows seen ∧ last.shown name = some found := by
  cases mounts with
  | already required same => exact shows_of_record valid required answered
  | mounted required listed =>
    obtain ⟨_, _, asking⟩ := Answered.append_iff.1 answered
    obtain ⟨_, _, following⟩ := Answered.cons_iff.1 asking
    obtain ⟨_, _, relisted⟩ := Answered.cons_iff.1 following
    exact shows_of_requires listed relisted

theorem shows_of_unmounts {pool : ThinPool} {before seen : Roster} {found : Volume}
    (valid : checkVolumeId name = .ok ())
    (unmounts : Pool.Unmounts pool name before exchanges (.ok found) seen)
    (answered : Answered world exchanges last) : last.Shows seen := by
  cases unmounts with
  | already required => exact (shows_of_record valid required answered).1
  | unmounted place required listed =>
    obtain ⟨_, _, asking⟩ := Answered.append_iff.1 answered
    obtain ⟨_, _, following⟩ := Answered.cons_iff.1 asking
    obtain ⟨_, _, relisted⟩ := Answered.cons_iff.1 following
    exact (shows_of_requires listed relisted).1

/-! ### Asking without changing anything -/

/-- A call that only looks something up changes nothing but the record of calls. -/
theorem answered_of_answer {call : VolumeCall} {given : Except Failure call.Result}
    (answer : world.volumes.answer call = (given, (world.asked [call]).volumes)) :
    Answered world [.ofVolume call given] (world.asked [call]) := by
  have first : (Backends.answer (.volume call) world).1 = given := congrArg Prod.fst answer
  have second : (Backends.answer (.volume call) world).2 = world.asked [call] :=
    congrArg (Backends.mk · world.repositories) (congrArg Prod.snd answer)
  rw [← first, ← second]
  exact .cons (.volume call) (.nil _)

/-- A listing that was not told to fail. -/
theorem answered_list (pool : ThinPool) (lists : ¬world.Fails .list) :
    Answered world [.ofVolume (.list pool) (.ok world.listing)] (world.asked [.list pool]) :=
  answered_of_answer (VolumeStore.answer_of_not_failing rfl lists)

/-- A look at a device that was not told to fail. -/
theorem answered_query {device : Path} {current : Option Path} (queries : ¬world.Fails .queryMount)
    (found : world.volumes.targetOf (VolumeStore.nameOf device) = current) :
    Answered world [.ofVolume (.queryMount device) (.ok current)]
      (world.asked [.queryMount device]) := by
  subst found
  exact answered_of_answer (VolumeStore.answer_of_not_failing rfl queries)

theorem Backends.asked_asked (world : Backends) (first second : List VolumeCall) :
    (world.asked first).asked second = world.asked (first ++ second) := by
  unfold asked
  dsimp only
  rw [List.append_assoc]

/-! ### Publishing again -/

/-- What a publish that came out well leaves behind: the volume is mounted at the target, and the
agent knows it. -/
structure Stands (agent : Agent) (world : Backends) (volume : String) (target : Path)
    (seen : Volume) : Prop where
  valid : checkVolumeId volume = .ok ()
  absolute : target.isAbsolute = true
  shows : world.Shows agent.roster
  shown : world.shown volume = some seen
  mounted : seen.isMountedAt target = true
  phase : agent.phases.get? volume = some .published
  locked : agent.locks.get? volume = some ()

theorem isAbsolute_of_checkPublish {capacity : Option Int}
    (valid : Agent.checkPublish settings volume target capacity = .ok ()) :
    target.isAbsolute = true := by
  have named := Agent.checkVolumeId_of_checkPublish valid
  unfold Agent.checkPublish at valid
  rw [named] at valid
  cases checked : checkTargetPath target with
  | ok _ => exact isAbsolute_of_checkTargetPath checked
  | error failure =>
    rw [checked] at valid
    cases valid

theorem stands_of_publishes {capacity : Option Int} {progress : Progress} {published : Published}
    (course : Agent.Publishes settings now volume target capacity agent exchanges progress
      (.ok published) after)
    (answered : Answered world exchanges last) :
    Stands after last volume target published.volume := by
  cases course with
  | alreadyMounted valid present there =>
    obtain ⟨shows, shown⟩ := shows_of_presents (Pool.presents_of_converses present) answered
    exact {
      valid := Agent.checkVolumeId_of_checkPublish valid
      absolute := isAbsolute_of_checkPublish valid
      shows := shows
      shown := shown
      mounted := there
      phase := Table.get?_insert_self ..
      locked := Table.get?_insert_self .. }
  | mounted valid present notThere filled settled mounted =>
    have named := Agent.checkVolumeId_of_checkPublish valid
    have mounts := Pool.mounts_of_converses mounted
    obtain ⟨_, _, mounting⟩ := Answered.append_iff.1 answered
    obtain ⟨shows, shown⟩ := shows_of_mounts named mounts mounting
    obtain ⟨size, place, stored, same⟩ := mounts_ok named mounts mounting
    exact {
      valid := named
      absolute := isAbsolute_of_checkPublish valid
      shows := shows
      shown := shown
      mounted := by
        rw [Backends.shown, stored] at shown
        cases shown
        exact same
      phase := Table.get?_insert_self ..
      locked := Table.get?_insert_self .. }

/-- A publish of a volume that stands where it is asked for looks once and changes nothing. -/
theorem Stands.hold_publish {seen : Volume} {again : Path} {capacity : Option Int}
    (stands : Stands agent world volume target seen) (settings : Settings) (now : Instant)
    (lists : ¬world.Fails .list) (same : again.same target = true)
    (positive : 0 < (Agent.sizeFor settings capacity).bytes)
    (enough : (Agent.sizeFor settings capacity).bytes ≤ seen.size.bytes) :
    world.hold agent (Agent.publish settings now volume again capacity) =
      ((.ok ⟨seen, false, none⟩, agent), world.asked [.list settings.pool]) := by
  have listed := world.shows_rosterOf_listing
  have valid := checkPublish_of_valid stands.valid (Path.isAbsolute_of_same same stands.absolute)
    positive
  have present : Converses
      (Pool.ensurePresent settings.pool volume (Agent.sizeFor settings capacity)) agent.roster
      [.ofVolume (.list settings.pool) (.ok world.listing)] (.ok ⟨seen, .unchanged⟩)
      (Pool.rosterOf world.listing) :=
    Pool.converses_ensurePresent_of_listed ((listed volume).trans stands.shown) positive enough
  have course : Agent.Publishes settings now volume again capacity agent _ _ _ _ :=
    .alreadyMounted valid present (Volume.isMountedAt_of_same same stands.mounted)
  have unchanged : (agent.locked volume).moved volume .published (Pool.rosterOf world.listing)
      agent.pending = agent := by
    unfold Agent.moved Agent.locked
    rw [listed.eq stands.shows, Table.insert_of_get? stands.phase,
      Table.insert_of_get? stands.locked]
  rw [unchanged] at course
  exact Backends.hold_iff.2
    ⟨_, Agent.converses_of_publishes course, answered_list settings.pool lists⟩

/-! ### Releasing again -/

/-- What a release that came out well leaves behind: the volume is there and not mounted, and the
agent knows it and has no lock for it. -/
structure Rests (agent : Agent) (world : Backends) (volume : String) : Prop where
  valid : checkVolumeId volume = .ok ()
  shows : world.Shows agent.roster
  unmounted : ∃ size, world.stored volume = some ⟨size, none⟩
  phase : agent.phases.get? volume = some .unpublished
  unlocked : agent.locks.get? volume = none

theorem shows_of_departs {reason : Option String} {before final : Roster} {released : Released}
    (valid : checkVolumeId volume = .ok ())
    (departs : Agent.Departs settings now volume before reason exchanges (.ok released) final)
    (answered : Answered world exchanges last) : last.Shows final := by
  generalize well : (Except.ok released : Except Failure Released) = outcome at departs
  cases departs with
  | stuck | unstaged => cases well
  | skipped left => exact shows_of_unmounts valid (Pool.unmounts_of_converses left) answered
  | @backedUp _ _ _ _ _ _ _ _ _ ended _ left staged backed freed =>
    cases ended with
    | error failure => cases well
    | ok freedVolume =>
      obtain ⟨_, _, answered⟩ := Answered.append_iff.1 answered
      obtain ⟨_, _, answered⟩ := Answered.append_iff.1 answered
      obtain ⟨_, _, ending⟩ := Answered.append_iff.1 answered
      exact shows_of_unmounts valid (Pool.unmounts_of_converses freed) ending

theorem rests_of_releases {released : Released}
    (course : Agent.Releases settings now volume target agent exchanges (.ok released) after)
    (answered : Answered world exchanges last) : Rests after last volume := by
  have unmounted := (unmounted_of_release course answered).2
  cases course with
  | departed valid looked departs =>
    have named := Agent.checkVolumeId_of_checkUnpublish valid
    obtain ⟨_, _, departing⟩ := Answered.append_iff.1 answered
    exact {
      valid := named
      shows := shows_of_departs named departs departing
      unmounted := unmounted
      phase := Table.get?_insert_self ..
      unlocked := Table.get?_erase_self .. }

/-- Why a volume that is not mounted is not backed up. -/
def restReason (agent : Agent) (volume : String) : String :=
  if agent.pending.contains volume then s!"{volume} was never seeded from backup, skipping backup"
  else s!"{volume} is not mounted, nothing to back up"

/-- A release of a volume that is listed as not mounted only looks, twice at the listing and once
at the device. -/
theorem releases_of_listed {volumes : List Volume} {seen : Volume}
    (valid : Agent.checkUnpublish volume target = .ok ())
    (there : (Pool.rosterOf volumes).get? volume = some seen) (unmounted : seen.target = none) :
    Agent.Releases settings now volume target agent
      [.ofVolume (.list settings.pool) (.ok volumes),
        .ofVolume (.list settings.pool) (.ok volumes),
        .ofVolume (.queryMount seen.device) (.ok none)]
      (.ok ⟨⟨.ofInstant now, []⟩, some (restReason agent volume)⟩)
      (agent.released volume ((Pool.rosterOf volumes).insert volume (seen.withTarget none))
        (.ok ⟨⟨.ofInstant now, []⟩, some (restReason agent volume)⟩)) := by
  have looked : Converses (Pool.find settings.pool volume) agent.roster
      [.ofVolume (.list settings.pool) (.ok volumes)] (.ok ((Pool.rosterOf volumes).get? volume))
      (Pool.rosterOf volumes) :=
    Pool.converses_find_of_listed
  rw [there] at looked
  have reason : agent.skipReason? seen volume = some (restReason agent volume) := by
    unfold Agent.skipReason? restReason
    rw [unmounted]
    split
    · rfl
    · rfl
  refine .departed valid looked ?_
  rw [reason]
  exact .skipped (Pool.converses_ensureUnmounted_of_listed there)

/-- A release of a volume that rests looks and changes nothing. -/
theorem Rests.hold_unpublish {again : Path} (rests : Rests agent world volume)
    (settings : Settings) (now : Instant) (lists : ¬world.Fails .list)
    (queries : ¬world.Fails .queryMount) (absolute : again.isAbsolute = true) :
    world.hold agent (Agent.unpublish settings now volume again) =
      ((.ok ⟨⟨.ofInstant now, []⟩, some (restReason agent volume)⟩, agent),
        world.asked [.list settings.pool, .list settings.pool,
          .queryMount (devicePath world.volumes.group volume)]) := by
  obtain ⟨size, stored⟩ := rests.unmounted
  have listed := world.shows_rosterOf_listing
  have shown : world.shown volume = some (world.volumes.listed volume ⟨size, none⟩) := by
    unfold Backends.shown
    rw [stored]
    rfl
  have there := (listed volume).trans shown
  have course : Agent.Releases settings now volume again agent _ _ _ :=
    releases_of_listed (Agent.checkUnpublish_of_valid rests.valid absolute) there rfl
  have roster : (Pool.rosterOf world.listing).insert volume
      ((world.volumes.listed volume ⟨size, none⟩).withTarget none) = agent.roster :=
    (Table.insert_of_get? there).trans (listed.eq rests.shows)
  have unchanged (released : Released) :
      agent.released volume agent.roster (.ok released) = agent := by
    unfold Agent.released Agent.unlocked Agent.moved Agent.locked
    dsimp only
    rw [Table.insert_of_get? rests.phase, Table.erase_insert, Table.erase_of_get? rests.unlocked]
  rw [roster, unchanged] at course
  refine Backends.hold_iff.2 ⟨_, Agent.converses_of_releases course, ?_⟩
  have nowhere : world.volumes.targetOf
      (VolumeStore.nameOf (world.volumes.listed volume ⟨size, none⟩).device) = none := by
    rw [nameOf_listed rests.valid, Backends.targetOf_of_stored stored]
  have queried : Answered ((world.asked [.list settings.pool]).asked [.list settings.pool]) _ _ :=
    answered_query queries nowhere
  have counted (listing query : VolumeCall) : ((world.asked [listing]).asked [listing]).asked
      [query] = world.asked [listing, listing, query] := by
    rw [Backends.asked_asked, Backends.asked_asked]
    rfl
  rw [counted] at queried
  exact Answered.append_iff.2 ⟨_, answered_list settings.pool lists,
    Answered.cons_iff.2 ⟨_, answered_list settings.pool lists, queried⟩⟩

/-! ### Repeated requests -/

/-- A request that came out well and is made again, to the same place and with a positive size that
the volume has already, while the calls that look do not fail. It comes out well, it says that
nothing was done, and nothing is changed: not what the agent knows, nor the backends but for the
record of what they were asked, which is nothing that changes anything. -/
theorem repeated_requests_change_nothing (settings : Settings) (agent after : Agent)
    (world last : Backends) (now : Instant) (volume : String) (target : Path) :
    (∀ capacity published,
      world.hold agent (Agent.publish settings now volume target capacity) =
        ((.ok published, after), last) →
      ∃ stored, last.stored volume = some stored ∧
        ∀ ops repositoryOps later again capacity, .list ∉ ops → again.same target = true →
          0 < (Agent.sizeFor settings capacity).bytes →
          (Agent.sizeFor settings capacity).bytes ≤ stored.size.bytes →
          (last.failing ops repositoryOps).hold after
              (Agent.publish settings later volume again capacity) =
            ((.ok ⟨published.volume, false, none⟩, after),
              (last.failing ops repositoryOps).asked [.list settings.pool])) ∧
    ∀ released,
      world.hold agent (Agent.unpublish settings now volume target) =
        ((.ok released, after), last) →
      ∀ ops repositoryOps later again, .list ∉ ops → .queryMount ∉ ops →
        again.isAbsolute = true →
        (last.failing ops repositoryOps).hold after
            (Agent.unpublish settings later volume again) =
          ((.ok ⟨⟨.ofInstant later, []⟩, some (restReason after volume)⟩, after),
            (last.failing ops repositoryOps).asked [.list settings.pool, .list settings.pool,
              .queryMount (devicePath last.volumes.group volume)]) := by
  constructor
  · intro capacity published held
    obtain ⟨exchanges, conversation, answered⟩ := Backends.hold_iff.1 held
    obtain ⟨progress, course⟩ := Agent.publishes_of_converses conversation
    have stands := stands_of_publishes course answered
    obtain ⟨stored, there, seen⟩ := Option.map_eq_some_iff.1 stands.shown
    refine ⟨stored, there, ?_⟩
    intro ops repositoryOps later again capacity lists same positive enough
    have changed : Stands after (last.failing ops repositoryOps) volume target published.volume :=
      ⟨stands.valid, stands.absolute, stands.shows, stands.shown, stands.mounted, stands.phase,
        stands.locked⟩
    exact changed.hold_publish settings later lists same positive (seen ▸ enough)
  · intro released held ops repositoryOps later again lists queries absolute
    obtain ⟨exchanges, conversation, answered⟩ := Backends.hold_iff.1 held
    have rests := rests_of_releases (Agent.releases_of_converses conversation) answered
    have changed : Rests after (last.failing ops repositoryOps) volume :=
      ⟨rests.valid, rests.shows, rests.unmounted, rests.phase, rests.unlocked⟩
    exact changed.hold_unpublish settings later lists queries absolute

/-- What comes of the first publish of the small setting. -/
def smallFirst (policy : RestorePolicy) : (Except Failure Published × Agent) × Backends :=
  smallStart.hold (.fresh .empty) (smallPublish policy)

/-- What comes of a release after the first publish of the small setting. -/
def smallReleased (policy : RestorePolicy) : (Except Failure Released × Agent) × Backends :=
  (smallFirst policy).2.hold (smallFirst policy).1.2
    (Agent.unpublish (smallSettings policy) smallNow "pg" ⟨"/mnt/a"⟩)

/-- A volume is published where every publish restores, and then again by another spelling of the
path while nothing can be mounted. Then it is released, and again while nothing can be unmounted. -/
theorem published_and_released_twice :
    ∃ published after last released gone left,
      smallFirst .always = ((.ok published, after), last) ∧ published.restoredFrom.isSome = true ∧
      (last.failing [.mount] []).hold after
          (Agent.publish (smallSettings .always) smallNow "pg" ⟨"/mnt/./a/"⟩ (some 1)) =
        ((.ok ⟨published.volume, false, none⟩, after),
          (last.failing [.mount] []).asked [.list (smallSettings .always).pool]) ∧
      last.hold after (Agent.unpublish (smallSettings .always) smallNow "pg" ⟨"/mnt/a"⟩) =
        ((.ok released, gone), left) ∧ released.skipped = none ∧
      (left.failing [.unmount] []).hold gone
          (Agent.unpublish (smallSettings .always) smallNow "pg" ⟨"/"⟩) =
        ((.ok ⟨⟨.ofInstant smallNow, []⟩, some (restReason gone "pg")⟩, gone),
          (left.failing [.unmount] []).asked
            [.list (smallSettings .always).pool, .list (smallSettings .always).pool,
              .queryMount (devicePath left.volumes.group "pg")]) := by
  have filled : (smallFirst .always).1.1.toOption.map (·.restoredFrom.isSome) = some true := by
    decide +kernel
  have kept : ((smallFirst .always).2.stored "pg").map (·.size) = some ⟨1073741824⟩ := by
    decide +kernel
  have backedUp : (smallReleased .always).1.1.toOption.map (·.skipped) = some none := by
    decide +kernel
  unfold smallReleased at backedUp
  generalize held : smallFirst .always = first at filled kept backedUp
  obtain ⟨⟨outcome, after⟩, last⟩ := first
  cases outcome with
  | error failure => cases filled
  | ok published =>
    generalize freed : last.hold after
      (Agent.unpublish (smallSettings .always) smallNow "pg" ⟨"/mnt/a"⟩) = second at backedUp
    obtain ⟨⟨outcome, gone⟩, left⟩ := second
    cases outcome with
    | error failure => cases backedUp
    | ok released =>
      obtain ⟨stored, there, again⟩ :=
        (repeated_requests_change_nothing (smallSettings .always) (.fresh .empty) after smallStart
          last smallNow "pg" ⟨"/mnt/a"⟩).1 none published held
      rw [there] at kept
      refine ⟨published, after, last, released, gone, left, rfl, Option.some.inj filled, ?_, freed,
        Option.some.inj backedUp, ?_⟩
      · refine again [.mount] [] smallNow ⟨"/mnt/./a/"⟩ (some 1) (by decide) (by decide)
          (by decide) ?_
        have size : stored.size = ⟨1073741824⟩ := Option.some.inj kept
        rw [size]
        decide
      · exact (repeated_requests_change_nothing (smallSettings .always) after gone last left
          smallNow "pg" ⟨"/mnt/a"⟩).2 released freed [.unmount] [] smallNow ⟨"/"⟩ (by decide)
          (by decide) (by decide)

/-- A publish that came out well is made again with a size of zero, which is at most the size of the
volume, and is refused although nothing fails. -/
theorem refused_again_without_size :
    ∃ published after last stored,
      smallFirst .onCreate = ((.ok published, after), last) ∧ last.stored "pg" = some stored ∧
      (Agent.sizeFor (smallSettings .onCreate) (some 0)).bytes ≤ stored.size.bytes ∧
      last.volumes.failing = [] ∧
      (last.hold after (Agent.publish (smallSettings .onCreate) smallNow "pg" ⟨"/mnt/a"⟩
        (some 0))).1.1 = .error (.invalidRequest "requested size must be positive, got 0B") := by
  have well : (smallFirst .onCreate).1.1.isOk = true := by decide +kernel
  have kept : ((smallFirst .onCreate).2.stored "pg").map (·.size) = some ⟨1073741824⟩ := by
    decide +kernel
  have works : (smallFirst .onCreate).2.volumes.failing = [] := by decide +kernel
  have refused : ((smallFirst .onCreate).2.hold (smallFirst .onCreate).1.2
      (Agent.publish (smallSettings .onCreate) smallNow "pg" ⟨"/mnt/a"⟩ (some 0))).1.1 =
      .error (.invalidRequest "requested size must be positive, got 0B") := by
    rfl
  generalize smallFirst .onCreate = first at well kept works refused
  obtain ⟨⟨outcome, after⟩, last⟩ := first
  obtain ⟨stored, there, size⟩ := Option.map_eq_some_iff.1 kept
  cases outcome with
  | error failure => cases well
  | ok published =>
    refine ⟨published, after, last, stored, rfl, there, ?_, works, refused⟩
    rw [size]
    decide

end Memory

end NodeAgent
