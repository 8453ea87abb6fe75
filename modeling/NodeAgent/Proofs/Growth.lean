/-
This file shows that volumes in memory only grow. A listing in memory tells the truth, so a volume
is extended only from a smaller size and created only where it is not; and what a failed creation
removes was not there when the call began. So a call leaves every volume that it found, and none of
them is smaller afterwards.
-/

import NodeAgent.Proofs.Observing
import NodeAgent.Proofs.Store

namespace NodeAgent

/-- Every change that a call asks for follows an observation. -/
theorem Step.justified {settings : Settings} {agent after : Agent} {call : Completed}
    (step : Step settings agent call after) : Justified call.exchanges := by
  cases step with
  | publish course => exact course.justified
  | unpublish course => exact course.justified

namespace Call

variable {name : String} {call : Call}

theorem IsMounting.not_isRemoval (mounting : call.IsMounting name) : ¬call.IsRemoval := by
  match call, mounting with
  | .volume (.list _), _ | .volume (.queryMount _), _ | .volume (.mount _ _), _
  | .volume (.unmount _), _ => exact id

theorem IsRestoring.not_isRemoval (restoring : call.IsRestoring name) : ¬call.IsRemoval := by
  match call, restoring with
  | .volume (.list _), _ | .volume (.queryMount _), _ | .volume (.mount _ _), _
  | .volume (.unmount _), _ | .volume (.copyTree _ _), _ | .repository _, _ => exact id

end Call

namespace Memory

open Operation

/-! ### Growth -/

namespace Backends

/-- Every volume that was stored is still stored, and it is not smaller. -/
def Grows (world last : Backends) : Prop :=
  ∀ ⦃name stored⦄, world.stored name = some stored →
    ∃ later, last.stored name = some later ∧ stored.size.bytes ≤ later.size.bytes

/-- A volume that is stored in both is not smaller in the second. -/
def NeverShrinks (world last : Backends) : Prop :=
  ∀ ⦃name stored later⦄, world.stored name = some stored → last.stored name = some later →
    stored.size.bytes ≤ later.size.bytes

theorem Grows.refl (world : Backends) : world.Grows world :=
  fun _ stored there => ⟨stored, there, Int.le_refl _⟩

theorem Grows.trans {first middle last : Backends} (early : first.Grows middle)
    (late : middle.Grows last) : first.Grows last := by
  intro name stored there
  obtain ⟨between, held, grown⟩ := early there
  obtain ⟨later, kept, further⟩ := late held
  exact ⟨later, kept, Int.le_trans grown further⟩

end Backends

/-! ### One call -/

namespace VolumeStore

variable {store : VolumeStore} {call : VolumeCall} {name : String} {stored later : StoredVolume}

/-- A call that removes nothing keeps a volume, and only an extension gives it another size. -/
theorem kept_perform (there : store.volumes.get? name = some stored)
    (unremoved : ¬Call.IsRemoval (.volume call)) :
    ∃ later, (store.perform call).2.volumes.get? name = some later ∧
      (later.size = stored.size ∨
        ∃ pool size, call = .extend pool name size ∧ later.size = size) := by
  by_cases touches : Call.Touches name (.volume call)
  · cases call with
    | isThin | list | queryMount | copyTree => exact absurd touches id
    | remove => exact absurd trivial unremoved
    | create pool created size =>
      obtain rfl : created = name := touches
      have held : store.volumes.contains created = true := by
        unfold Table.contains
        rw [there]
        rfl
      refine ⟨stored, ?_, Or.inl rfl⟩
      show (store.create created size).2.volumes.get? created = some stored
      unfold create
      rw [if_pos held]
      exact there
    | extend pool changed size =>
      obtain rfl : changed = name := touches
      refine ⟨{ stored with size }, ?_, Or.inr ⟨pool, size, rfl, rfl⟩⟩
      show (store.extend changed size).2.volumes.get? changed = _
      unfold extend
      rw [there]
      exact Table.get?_insert_self _ _ _
    | mount device target =>
      obtain rfl : nameOf device = name := touches
      show ∃ later, (store.mount device target).2.volumes.get? (nameOf device) = _ ∧ _
      unfold mount
      rw [there]
      dsimp only
      split
      · exact ⟨stored, there, Or.inl rfl⟩
      · exact ⟨_, Table.get?_insert_self _ _ _, Or.inl rfl⟩
    | unmount device =>
      obtain rfl : nameOf device = name := touches
      show ∃ later, (store.unmount device).2.volumes.get? (nameOf device) = _ ∧ _
      unfold unmount
      rw [there]
      obtain ⟨size, target⟩ := stored
      cases target with
      | none => exact ⟨_, there, Or.inl rfl⟩
      | some place => exact ⟨_, Table.get?_insert_self _ _ _, Or.inl rfl⟩
  · exact ⟨stored, (store.get?_perform touches).trans there, Or.inl rfl⟩

theorem eq_of_removal (there : store.volumes.get? name = some stored)
    (removal : Call.IsRemoval (.volume call))
    (still : (store.perform call).2.volumes.get? name = some later) : later = stored := by
  by_cases touches : Call.Touches name (.volume call)
  · match call, removal with
    | .remove pool removed, _ =>
      obtain rfl : removed = name := touches
      change (store.remove removed).2.volumes.get? removed = some later at still
      unfold remove at still
      split at still
      · rw [Table.get?_erase_self] at still
        cases still
      · exact Option.some.inj (still.symm.trans there)
  · rw [store.get?_perform touches, there] at still
    exact (Option.some.inj still).symm

end VolumeStore

namespace Answered

variable {world last : Backends} {exchange : Exchange backends} {name : String}
  {stored later : StoredVolume}

/-- What a question came to for the volumes: nothing, or what it does where it was not told to
fail. -/
theorem volumes_cases (answered : Answered world [exchange] last) :
    last.volumes.volumes = world.volumes.volumes ∨
      ∃ (call : VolumeCall) (store : VolumeStore), exchange.question = .volume call ∧
        store.volumes = world.volumes.volumes ∧
        last.volumes.volumes = (store.perform call).2.volumes := by
  cases answered with
  | cons call rest =>
    cases rest
    cases call with
    | repository call => exact Or.inl rfl
    | volume call =>
      change (world.volumes.answer call).2.volumes = _ ∨ ∃ (asked : VolumeCall)
        (store : VolumeStore), Call.volume call = .volume asked ∧
        store.volumes = world.volumes.volumes ∧
        (world.volumes.answer call).2.volumes = (store.perform asked).2.volumes
      unfold VolumeStore.answer
      split
      · exact Or.inr ⟨call, world.volumes, rfl, rfl, rfl⟩
      · dsimp only
        split
        · exact Or.inl rfl
        · exact Or.inr ⟨call, { world.volumes with calls := world.volumes.calls ++ [call] },
            rfl, rfl, rfl⟩

/-- A question that asks for no removal keeps a volume, and only for its extension it gets another
size. -/
theorem kept (answered : Answered world [exchange] last)
    (there : world.stored name = some stored) (unremoved : ¬Call.IsRemoval exchange.question) :
    ∃ later, last.stored name = some later ∧
      (later.size = stored.size ∨
        ∃ pool size, exchange.question = .volume (.extend pool name size) ∧ later.size = size) := by
  unfold Backends.stored at there ⊢
  rcases answered.volumes_cases with same | ⟨call, store, asked, held, performed⟩
  · rw [same]
    exact ⟨stored, there, Or.inl rfl⟩
  · rw [asked] at unremoved
    rw [← held] at there
    rw [performed]
    obtain ⟨later, still, same | ⟨pool, size, rfl, sized⟩⟩ :=
      VolumeStore.kept_perform there unremoved
    · exact ⟨later, still, Or.inl same⟩
    · exact ⟨later, still, Or.inr ⟨pool, size, asked, sized⟩⟩

theorem eq_of_removal (answered : Answered world [exchange] last)
    (there : world.stored name = some stored) (removal : Call.IsRemoval exchange.question)
    (still : last.stored name = some later) : later = stored := by
  unfold Backends.stored at there still
  rcases answered.volumes_cases with same | ⟨call, store, asked, held, performed⟩
  · rw [same, there] at still
    exact (Option.some.inj still).symm
  · rw [asked] at removal
    rw [← held] at there
    rw [performed] at still
    exact VolumeStore.eq_of_removal there removal still

/-- A listing tells the size of a volume that is stored. -/
theorem size_of_listed {pool : ThinPool} {volumes : List Volume} {existing : Volume}
    (answered : Answered world [.ofVolume (.list pool) (.ok volumes)] last)
    (listed : (Pool.rosterOf volumes).get? name = some existing)
    (there : world.stored name = some stored) : existing.size = stored.size := by
  rw [answered.list_ok.2, there] at listed
  cases listed
  rfl

/-- What was not listed is not stored. -/
theorem stored_eq_none_of_listed {pool : ThinPool} {volumes : List Volume}
    (answered : Answered world [.ofVolume (.list pool) (.ok volumes)] last)
    (notListed : (Pool.rosterOf volumes).get? name = none) : world.stored name = none := by
  rw [answered.list_ok.2] at notListed
  exact Option.map_eq_none_iff.1 notListed

end Answered

/-! ### Calls in turn -/

section Calls

variable {world last middle next : Backends} {exchanges early late : List (Exchange backends)}
  {exchange : Exchange backends}

/-- Where every change follows an observation, no question makes a volume smaller. -/
theorem neverShrinks_of_justified (justified : Justified exchanges)
    (split : exchanges = early ++ exchange :: late) (begun : Answered world early middle)
    (answered : Answered middle [exchange] next) : middle.NeverShrinks next := by
  intro name stored later there still
  by_cases removal : Call.IsRemoval exchange.question
  · have same := answered.eq_of_removal there removal still
    exact Int.le_of_eq (congrArg (·.size.bytes) same.symm)
  obtain ⟨kept, held, sized⟩ := answered.kept there removal
  rw [still] at held
  cases held
  rcases sized with same | ⟨pool, size, asked, sized⟩
  · exact Int.le_of_eq (congrArg Size.bytes same.symm)
  · obtain ⟨before, observation, rfl, justifies⟩ := justified split (by rw [asked]; trivial)
    rw [asked] at justifies
    obtain ⟨first, _, observed⟩ := Answered.append_iff.1 begun
    cases justifies with
    | extend listed smaller =>
      have seen : first.stored name = some stored := by
        rw [← there]
        exact (observed.stored_eq (List.forall_mem_singleton.2 id)).symm
      rw [observed.size_of_listed listed seen] at smaller
      rw [sized]
      exact Int.le_of_lt smaller

/-- Every volume is still there, and not smaller, at each point of a record in which nothing is
removed. -/
theorem grows_of_justified (justified : Justified exchanges)
    (unremoved : ∀ exchange ∈ exchanges, ¬Call.IsRemoval exchange.question)
    (answered : Answered world exchanges last) : world.Grows last := by
  -- The induction is on how far the record has come: the observation before a change is only found
  -- inside the whole record, so the rest of it is carried along.
  have prefixes : ∀ early late, exchanges = early ++ late → ∀ middle,
      Answered world early middle → world.Grows middle := by
    intro early
    induction early using List.reverseRecOn with
    | nil =>
      intro late split middle begun
      cases begun
      exact .refl world
    | append_singleton front exchange inductionHypothesis =>
      intro late split next begun
      rw [List.append_assoc] at split
      obtain ⟨middle, started, answered⟩ := Answered.append_iff.1 begun
      refine (inductionHypothesis _ split middle started).trans fun name stored there => ?_
      have inside : exchange ∈ exchanges := by
        rw [split]
        exact List.mem_append_right _ List.mem_cons_self
      obtain ⟨later, still, _⟩ := answered.kept there (unremoved exchange inside)
      exact ⟨later, still, neverShrinks_of_justified justified split started answered there still⟩
  exact prefixes exchanges [] (List.append_nil _).symm last answered

/-- A volume that was removed again after its creation had failed was not there at first. -/
theorem grows_of_ensurePresent {pool : ThinPool} {name : String} {least : Size}
    {before after : Roster} {outcome : Except Failure Pool.Presence}
    (conversation : Converses (Pool.ensurePresent pool name least) before exchanges outcome after)
    (answered : Answered world exchanges last) : world.Grows last := by
  rcases (Pool.presents_of_converses conversation).removal_cases with
    unremoved | ⟨volumes, failure, again, left, removal, answer, rfl, notListed, _⟩
  · exact grows_of_justified (Pool.justified_of_ensurePresent conversation) unremoved answered
  · intro other stored there
    -- The first listing does not have the volume that is removed, so what was stored is another.
    obtain ⟨_, listed, _⟩ := Answered.cons_iff.1 answered
    have different : name ≠ other := by
      rintro rfl
      rw [listed.stored_eq_none_of_listed notListed] at there
      cases there
    refine ⟨stored, ?_, Int.le_refl _⟩
    rw [← there]
    refine answered.stored_eq ?_
    simp only [List.forall_mem_cons]
    exact ⟨id, different, id, different, id, fun _ member => nomatch member⟩

variable {settings : Settings} {agent after : Agent} {now : Instant} {volume : String}
  {target : Path}

theorem grows_of_fills {due : Bool} {before final : Roster} {how : Filling}
    (fills : Agent.Fills settings now volume before due exchanges how final)
    (answered : Answered world exchanges last) : world.Grows last := by
  refine grows_of_justified fills.justified (fun exchange member => ?_) answered
  rcases fills.mem_cases exchange member with ⟨destination, asked⟩ | restoring
  · rw [asked]
    exact id
  · exact restoring.not_isRemoval

theorem grows_of_ensureMounted {pool : ThinPool} {before final : Roster}
    {outcome : Except Failure Volume}
    (conversation : Converses (Pool.ensureMounted pool volume target) before exchanges outcome
      final)
    (answered : Answered world exchanges last) : world.Grows last :=
  have mounting := Pool.asksOnly_ensureMounted conversation
  grows_of_justified (Pool.mounts_of_converses conversation).justified
    (fun exchange member => (mounting exchange member).not_isRemoval) answered

theorem grows_of_publishes {capacity : Option Int} {progress : Progress}
    {outcome : Except Failure Published}
    (course : Agent.Publishes settings now volume target capacity agent exchanges progress outcome
      after)
    (answered : Answered world exchanges last) : world.Grows last := by
  cases course with
  | refused =>
    cases answered
    exact .refl world
  | absent valid present | alreadyMounted valid present there =>
    exact grows_of_ensurePresent present answered
  | broken valid present notThere filled failed =>
    obtain ⟨middle, presenting, filling⟩ := Answered.append_iff.1 answered
    exact (grows_of_ensurePresent present presenting).trans (grows_of_fills filled filling)
  | unmounted valid present notThere filled settled mounting
  | mounted valid present notThere filled settled mounting =>
    obtain ⟨middle, early, mounted⟩ := Answered.append_iff.1 answered
    obtain ⟨first, presenting, filling⟩ := Answered.append_iff.1 early
    exact ((grows_of_ensurePresent present presenting).trans (grows_of_fills filled filling)).trans
      (grows_of_ensureMounted mounting mounted)

theorem grows_of_releases {outcome : Except Failure Released}
    (course : Agent.Releases settings now volume target agent exchanges outcome after)
    (answered : Answered world exchanges last) : world.Grows last := by
  refine grows_of_justified course.justified (fun exchange member => ?_) answered
  rcases course.mem_cases exchange member with mounting | ⟨destination, source, time, asked⟩
  · exact mounting.not_isRemoval
  · rw [asked]
    exact id

/-- A call leaves every volume that it found, and none of them is smaller afterwards. -/
theorem grows_of_step {call : Completed} (step : Step settings agent call after)
    (answered : Answered world call.exchanges last) : world.Grows last := by
  cases step with
  | publish course => exact grows_of_publishes course answered
  | unpublish course => exact grows_of_releases course answered

theorem Session.grows {start : Backends} {history : List Completed}
    (session : Session settings start history agent world) : start.Grows world := by
  induction session with
  | fresh roster => exact .refl start
  | step session step answered inductionHypothesis =>
    exact inductionHypothesis.trans (grows_of_step step answered)
  | failing session ops repositoryOps inductionHypothesis => exact inductionHypothesis

end Calls

/-! ### Changes and observations -/

/-- Every change of a volume follows an observation. Whatever is answered, an operation on a pool
asks for a change only right after a look that calls for it, it asks for room at most once, and to
make sure that a volume is there it removes only what it failed to create itself. The same looks
come before all changes of a publish and of a release. So in front of volumes in memory no question
makes a volume smaller, and what is there before a call is there after it. -/
theorem changes_follow_observations :
    (∀ {exchanges}, Pool.Operates exchanges →
      Justified exchanges ∧ Pool.allocations exchanges ≤ 1) ∧
    (∀ {pool name least before exchanges outcome after early group removed late}
      {answer : Except Failure Unit},
      Converses (Pool.ensurePresent pool name least) before exchanges outcome after →
      exchanges = early ++ .ofVolume (.remove group removed) answer :: late →
      group = pool ∧ removed = name ∧ ∃ volumes failure again left,
        early = [.ofVolume (.list pool) (.ok volumes),
          .ofVolume (.create pool name least) (.error failure),
          .ofVolume (.list pool) (.ok again)] ∧
        (Pool.rosterOf volumes).get? name = none ∧
        (Pool.rosterOf again).get? name = some left) ∧
    ∀ {settings : Settings} {agent after : Agent} {call : Completed},
      Step settings agent call after → Justified call.exchanges ∧
        ∀ {start world last : Backends} {history : List Completed},
          Session settings start history agent world → Answered world call.exchanges last →
          start.Grows world ∧ world.Grows last ∧
          ∀ {early exchange late middle next}, call.exchanges = early ++ exchange :: late →
            Answered world early middle → Answered middle [exchange] next →
            middle.NeverShrinks next := by
  refine ⟨fun operates => ⟨operates.justified, operates.allocations_le_one⟩, ?_, ?_⟩
  · intro pool name least before exchanges outcome after early group removed late answer
      conversation split
    exact (Pool.presents_of_converses conversation).before_removal split
  · intro settings agent after call step
    refine ⟨step.justified, fun session answered => ⟨session.grows, grows_of_step step answered,
      fun split begun asked => neverShrinks_of_justified step.justified split begun asked⟩⟩

/-- The exchanges of a creation that fails half-way and is undone. -/
def undone : List (Exchange backends) :=
  [.ofVolume (.list ⟨"vg0", "thinpool"⟩) (.ok []),
    .ofVolume (.create ⟨"vg0", "thinpool"⟩ "pg" ⟨1073741824⟩)
      (.error (.backend "mkfs.xfs" (some 1) "busy")),
    .ofVolume (.list ⟨"vg0", "thinpool"⟩)
      (.ok [⟨"pg", "vg0", "Vwi-a-tz--", ⟨1073741824⟩, false, none⟩]),
    .ofVolume (.remove ⟨"vg0", "thinpool"⟩ "pg") (.ok ()),
    .ofVolume (.list ⟨"vg0", "thinpool"⟩) (.ok [])]

/-- One small volume that is there from the start. -/
def smallVolume : Backends :=
  { smallStart with volumes := smallStart.volumes.withVolume "pg" ⟨1024⟩ }

/-- A creation that is undone asks for room once and removes what it failed to create, and a publish
of a small volume keeps it and does not make it smaller with any question. -/
theorem kept_when_published :
    (Justified undone ∧ Pool.allocations undone ≤ 1) ∧
    (∃ volumes failure again left,
      undone.take 3 = [.ofVolume (.list ⟨"vg0", "thinpool"⟩) (.ok volumes),
        .ofVolume (.create ⟨"vg0", "thinpool"⟩ "pg" ⟨1073741824⟩) (.error failure),
        .ofVolume (.list ⟨"vg0", "thinpool"⟩) (.ok again)] ∧
      (Pool.rosterOf volumes).get? "pg" = none ∧ (Pool.rosterOf again).get? "pg" = some left) ∧
    (∃ later,
      (smallVolume.hold (.fresh .empty) (smallPublish .onCreate)).2.stored "pg" = some later ∧
        1024 ≤ later.size.bytes) ∧
    ∃ exchange next, Answered smallVolume [exchange] next ∧ smallVolume.NeverShrinks next := by
  obtain ⟨onPool, onRemoval, inMemory⟩ := changes_follow_observations
  have followed : ((Pool.ensurePresent ⟨"vg0", "thinpool"⟩ "pg" ⟨1073741824⟩).run .empty).follow
      undone = some (.error (.backend "mkfs.xfs" (some 1) "busy"), .empty) := by decide +kernel
  have conversation := Dialogue.follow_eq_some_iff.1 followed
  refine ⟨onPool (.presenting conversation), (onRemoval conversation rfl).2.2, ?_⟩
  have there : smallVolume.stored "pg" = some ⟨⟨1024⟩, none⟩ := by decide +kernel
  have changed : (smallVolume.hold (.fresh .empty) (smallPublish .onCreate)).2.stored "pg" ≠
      smallVolume.stored "pg" := by decide +kernel
  generalize held : smallVolume.hold (.fresh .empty) (smallPublish .onCreate) = ended at changed ⊢
  obtain ⟨⟨outcome, after⟩, last⟩ := ended
  obtain ⟨exchanges, progress, step, answered⟩ := Backends.hold_publish_iff.1 held
  obtain ⟨_, grows, shrinks⟩ := (inMemory step).2 (.fresh .empty) answered
  refine ⟨grows there, ?_⟩
  cases exchanges with
  | nil =>
    cases answered
    exact absurd rfl changed
  | cons exchange rest =>
    obtain ⟨next, first, _⟩ := Answered.cons_iff.1 answered
    exact ⟨exchange, next, first, shrinks (List.nil_append _).symm (.nil _) first⟩

end Memory

end NodeAgent
