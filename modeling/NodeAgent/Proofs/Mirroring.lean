/-
This file says that the roster that a manager keeps never matters. Every operation on a pool lists
the volumes before it looks at the roster, so what it asks and what comes of it are those of a
manager that keeps none. What a manager knows afterwards is what its last listing said, whatever it
knew before.
-/

import NodeAgent.Proofs.Creation
import NodeAgent.Proofs.Observing

namespace NodeAgent

open Operation

/-! ### Sequences of operations -/

namespace Pool

/-- An operation on a pool. -/
inductive Job where
  | present (name : String) (least : Size)
  | absent (name : String)
  | find (name : String)
  | list
  | mounted (name : String) (target : Path)
  | unmounted (name : String)

namespace Job

/-- What an operation results in where it does not fail. -/
def Result : Job → Type
  | present _ _ => Presence
  | absent _ => Unit
  | find _ => Option Volume
  | list => List Volume
  | mounted _ _ | unmounted _ => Volume

/-- How the manager of a pool does a job. -/
def operation (pool : ThinPool) : (job : Job) → Operation Roster job.Result
  | present name least => ensurePresent pool name least
  | absent name => ensureAbsent pool name
  | find name => Pool.find pool name
  | list => Pool.list pool
  | mounted name target => ensureMounted pool name target
  | unmounted name => ensureUnmounted pool name

/-- A job with what came of it. -/
abbrev Ended := (job : Job) × Except Failure job.Result

/-- The manager does jobs one after another, each with the roster that the one before left. -/
def doAll (pool : ThinPool) : List Job → Roster → Dialogue backends (List Ended × Roster)
  | [], roster => return ([], roster)
  | job :: rest, roster => do
    let (outcome, roster) ← (job.operation pool).run roster
    let (others, roster) ← doAll pool rest roster
    return (⟨job, outcome⟩ :: others, roster)

/-- A job that is done without any roster to begin with, and none is kept. -/
def doAfresh (pool : ThinPool) (job : Job) : Dialogue backends (Except Failure job.Result) := do
  let (outcome, _) ← (job.operation pool).run .empty
  return outcome

/-- Jobs that are done one after another by a manager that keeps no roster. -/
def doAllAfresh (pool : ThinPool) : List Job → Dialogue backends (List Ended)
  | [] => return []
  | job :: rest => do
    let outcome ← doAfresh pool job
    let others ← doAllAfresh pool rest
    return ⟨job, outcome⟩ :: others

end Job

/-! ### Every operation begins with a listing -/

/-- What follows a listing: it is gone on from the volumes, or ended with the failure. -/
def afterListing {Result : Type}
    (next : List Volume → Dialogue backends (Except Failure Result × Roster)) (roster : Roster) :
    Except Failure (List Volume) → Dialogue backends (Except Failure Result × Roster)
  | .ok volumes => next volumes
  | .error failure => .done (.error failure, roster)

/-- The operation lists the volumes first. What it does after that does not depend on the roster
that it began with; where the listing fails it has ended and the roster is as it was. -/
def ListsFirst {Result : Type} (pool : ThinPool) (operation : Operation Roster Result) : Prop :=
  ∃ next, ∀ roster,
    operation.run roster =
      @Dialogue.ask backends _ (.volume (.list pool)) (afterListing next roster)

variable {pool : ThinPool} {name : String} {target : Path} {least : Size} {Result Later : Type}

theorem listsFirst_refresh : ListsFirst pool (refresh pool) := by
  refine ⟨fun volumes => .done (.ok ⟨⟩, rosterOf volumes), fun roster => ?_⟩
  refine congrArg (@Dialogue.ask backends _ (.volume (.list pool))) (funext fun answer => ?_)
  cases answer <;> rfl

theorem ListsFirst.bind {operation : Operation Roster Result}
    (first : ListsFirst pool operation) (following : Result → Operation Roster Later) :
    ListsFirst pool (operation >>= following) := by
  obtain ⟨next, runs⟩ := first
  refine ⟨fun volumes => next volumes >>= fun ended => ExceptT.bindCont following ended.1 ended.2,
    fun roster => ?_⟩
  show operation.run roster >>= (fun ended => ExceptT.bindCont following ended.1 ended.2) = _
  rw [runs]
  refine congrArg (@Dialogue.ask backends _ (.volume (.list pool))) (funext fun answer => ?_)
  cases answer <;> rfl

theorem listsFirst_find : ListsFirst pool (find pool name) := listsFirst_refresh.bind _

theorem listsFirst_require : ListsFirst pool (require pool name) := listsFirst_find.bind _

theorem listsFirst_ensurePresent (positive : ¬least.bytes ≤ 0) :
    ListsFirst pool (ensurePresent pool name least) := by
  unfold ensurePresent
  rw [if_neg positive]
  exact listsFirst_find.bind _

/-- An operation lists first, unless the size that it was given is refused. -/
theorem Job.listsFirst_or_throws (pool : ThinPool) (job : Job) :
    ListsFirst pool (job.operation pool) ∨ ∃ failure, job.operation pool = throw failure := by
  cases job with
  | present name least =>
    by_cases nonpositive : least.bytes ≤ 0
    · exact Or.inr ⟨_, if_pos nonpositive⟩
    · exact Or.inl (listsFirst_ensurePresent nonpositive)
  | absent name => exact Or.inl (listsFirst_find.bind _)
  | find name => exact Or.inl listsFirst_find
  | list => exact Or.inl (listsFirst_refresh.bind _)
  | mounted name target | unmounted name => exact Or.inl (listsFirst_require.bind _)

/-! ### The roster is never read before it is replaced -/

namespace Job

/-- What a job asks and what comes of it do not depend on the roster. -/
theorem run_bind_eq_doAfresh_bind (job : Job) (roster : Roster)
    (next : Except Failure job.Result → Dialogue backends Later) :
    ((job.operation pool).run roster >>= fun ended => next ended.1) =
      doAfresh pool job >>= next := by
  unfold doAfresh
  rw [bind_assoc]
  rcases job.listsFirst_or_throws pool with ⟨following, runs⟩ | ⟨failure, throws⟩
  · rw [runs, runs]
    refine congrArg (@Dialogue.ask backends _ (.volume (.list pool))) (funext fun answer => ?_)
    cases answer <;> rfl
  · rw [throws]
    rfl

/-- A manager that keeps a roster does jobs as one that keeps none. -/
theorem doAll_bind_eq_doAllAfresh_bind (jobs : List Job) (roster : Roster)
    (next : List Ended → Dialogue backends Later) :
    (doAll pool jobs roster >>= fun ended => next ended.1) = doAllAfresh pool jobs >>= next := by
  induction jobs generalizing roster next with
  | nil => rfl
  | cons job rest inductionHypothesis =>
    unfold doAll doAllAfresh
    simp only [bind_assoc, pure_bind]
    have others (ended : Except Failure job.Result × Roster) :
        (doAll pool rest ended.2 >>= fun last => next (⟨job, ended.1⟩ :: last.1)) =
          doAllAfresh pool rest >>= fun last => next (⟨job, ended.1⟩ :: last) :=
      inductionHypothesis ended.2 fun last => next (⟨job, ended.1⟩ :: last)
    simp only [others]
    exact run_bind_eq_doAfresh_bind job roster fun outcome =>
      doAllAfresh pool rest >>= fun last => next (⟨job, outcome⟩ :: last)

theorem fst_doAll (jobs : List Job) (roster : Roster) :
    Prod.fst <$> doAll pool jobs roster = doAllAfresh pool jobs := by
  rw [← bind_pure_comp, ← bind_pure (doAllAfresh pool jobs)]
  exact doAll_bind_eq_doAllAfresh_bind jobs roster pure

/-! ### What the manager knows afterwards -/

variable {before after first second : Roster} {exchanges : List (Exchange backends)}

/-- A job that hears a listing ends with the same roster whatever it began with; one that hears none
leaves the roster as it was. -/
theorem converses_cases {job : Job} {outcome : Except Failure job.Result}
    (conversation : Converses (job.operation pool) first exchanges outcome after) :
    (∀ second, Converses (job.operation pool) second exchanges outcome after) ∨
      (after = first ∧ (∀ volumes, Exchange.ofVolume (.list pool) (.ok volumes) ∉ exchanges) ∧
        ∀ second, Converses (job.operation pool) second exchanges outcome second) := by
  unfold Converses at conversation ⊢
  rcases job.listsFirst_or_throws pool with ⟨following, runs⟩ | ⟨failure, throws⟩
  · simp only [runs] at conversation ⊢
    cases conversation with
    | @ask _ _ answer rest _ held =>
      cases answer with
      | ok volumes =>
        exact Or.inl fun _ =>
          @Dialogue.Held.ask backends _ (.volume (.list pool)) _ (.ok volumes) _ _ held
      | error failure =>
        obtain ⟨rfl, same⟩ := held_done_iff.1 held
        obtain ⟨rfl, rfl⟩ := Prod.mk.inj same
        refine Or.inr ⟨rfl, fun volumes member => ?_, fun _ =>
          @Dialogue.Held.ask backends _ (.volume (.list pool)) _ (.error failure) _ _ (.done _)⟩
        cases List.mem_singleton.1 member
  · rw [throws] at conversation ⊢
    obtain ⟨rfl, same⟩ := held_done_iff.1 conversation
    obtain ⟨rfl, rfl⟩ := Prod.mk.inj same
    exact Or.inr ⟨rfl, fun _ => List.not_mem_nil, fun _ => .done _⟩

/-- Once a listing came the rosters of two managers are equal. -/
theorem held_doAll_of_listed {jobs : List Job} {outcomes : List Ended}
    (held : Dialogue.Held (doAll pool jobs first) exchanges (outcomes, after))
    (listed : ∃ volumes, Exchange.ofVolume (.list pool) (.ok volumes) ∈ exchanges) :
    Dialogue.Held (doAll pool jobs second) exchanges (outcomes, after) := by
  induction jobs generalizing first second exchanges outcomes with
  | nil =>
    obtain ⟨rfl, _⟩ := held_done_iff.1 held
    obtain ⟨volumes, member⟩ := listed
    cases member
  | cons job rest inductionHypothesis =>
    obtain ⟨working, further, ⟨outcome, middle⟩, rfl, worked, others⟩ :=
      Dialogue.held_bind_iff.1 held
    rcases converses_cases worked with again | ⟨rfl, none, again⟩
    · exact Dialogue.held_bind_iff.2 ⟨working, further, _, rfl, again second, others⟩
    · obtain ⟨going, ending, ⟨last, final⟩, rfl, went, ended⟩ := Dialogue.held_bind_iff.1 others
      obtain ⟨rfl, same⟩ := held_done_iff.1 ended
      obtain ⟨rfl, rfl⟩ := Prod.mk.inj same
      -- This job heard no listing, so one of the others did.
      have later : ∃ volumes, Exchange.ofVolume (.list pool) (.ok volumes) ∈ going := by
        obtain ⟨volumes, member⟩ := listed
        rw [List.append_nil] at member
        exact ⟨volumes, (List.mem_append.1 member).resolve_left (none volumes)⟩
      exact Dialogue.held_bind_iff.2 ⟨working, going ++ [], _, rfl, again second,
        Dialogue.held_bind_iff.2 ⟨going, [], _, rfl, inductionHypothesis went later, .done _⟩⟩

end Job

/-! ### Listings that fail -/

/-- What a listing said, where the exchange is one that came. -/
def heard? : Exchange backends → Option (List Volume)
  | ⟨.volume (.list _), answer⟩ => (show Except Failure (List Volume) from answer).toOption
  | _ => none

/-- The roster after the listings of a conversation. -/
def rosterAfter (before : Roster) (exchanges : List (Exchange backends)) : Roster :=
  exchanges.foldl (fun roster exchange => ((heard? exchange).map rosterOf).getD roster) before

/-- A listing that fails is the last thing that is asked, and the roster stays as it was before. -/
def EndsAtFailure (pool : ThinPool) (before : Roster) (exchanges : List (Exchange backends))
    (after : Roster) : Prop :=
  ∀ failure, Exchange.ofVolume (.list pool) (.error failure) ∈ exchanges →
    ∃ early, exchanges = early ++ [.ofVolume (.list pool) (.error failure)] ∧
      after = rosterAfter before early

variable {before after : Roster} {exchange : Exchange backends}
  {exchanges : List (Exchange backends)}

theorem EndsAtFailure.nil : EndsAtFailure pool before [] after := nofun

theorem EndsAtFailure.failed (failure : Failure) :
    EndsAtFailure pool before [.ofVolume (.list pool) (.error failure)] before := by
  intro told member
  exact ⟨[], List.singleton_inj.2 (List.mem_singleton.1 member).symm, rfl⟩

theorem EndsAtFailure.cons
    (rest : EndsAtFailure pool (rosterAfter before [exchange]) exchanges after)
    (other : ∀ failure, exchange ≠ .ofVolume (.list pool) (.error failure)) :
    EndsAtFailure pool before (exchange :: exchanges) after := by
  intro failure member
  obtain ⟨early, rfl, rfl⟩ :=
    rest failure ((List.mem_cons.1 member).resolve_left (other failure).symm)
  exact ⟨exchange :: early, rfl, rfl⟩

/-- A listing that came is followed by what follows from its roster. -/
theorem EndsAtFailure.listed {volumes : List Volume}
    (rest : EndsAtFailure pool (rosterOf volumes) exchanges after) :
    EndsAtFailure pool before (.ofVolume (.list pool) (.ok volumes) :: exchanges) after :=
  rest.cons nofun

theorem Refreshes.endsAtFailure {outcome : Except Failure Unit}
    (refreshes : Refreshes pool before exchanges outcome after) :
    EndsAtFailure pool before exchanges after := by
  cases refreshes with
  | listed volumes => exact .listed .nil
  | unlisted failure => exact .failed failure

theorem Finds.endsAtFailure {outcome : Except Failure (Option Volume)}
    (finds : Finds pool name before exchanges outcome after) :
    EndsAtFailure pool before exchanges after := by
  cases finds with
  | listed volumes => exact .listed .nil
  | unlisted failure => exact .failed failure

theorem Requires.endsAtFailure {outcome : Except Failure Volume}
    (requires : Requires pool name before exchanges outcome after) :
    EndsAtFailure pool before exchanges after := by
  cases requires with
  | found volumes | missing volumes => exact .listed .nil
  | unlisted failure => exact .failed failure

/-- What follows a volume that was found begins from the listing that it was found in. -/
theorem Requires.endsAtFailure_append {volume : Volume} {seen : Roster}
    {further : List (Exchange backends)}
    (requires : Requires pool name before exchanges (.ok volume) seen)
    (rest : EndsAtFailure pool seen further after) :
    EndsAtFailure pool before (exchanges ++ further) after := by
  cases requires with
  | found volumes => exact .listed rest

theorem Discards.endsAtFailure (discards : Discards pool name before exchanges after) :
    EndsAtFailure pool before exchanges after := by
  cases discards with
  | unlisted failure => exact .failed failure
  | nothing volumes => exact .listed .nil
  | removed volumes left removal there refreshed =>
    exact .listed (refreshed.endsAtFailure.cons nofun)

theorem Presents.endsAtFailure {outcome : Except Failure Presence}
    (presents : Presents pool name least before exchanges outcome after) :
    EndsAtFailure pool before exchanges after := by
  cases presents with
  | nonpositive => exact .nil
  | unlisted failure => exact .failed failure
  | created volumes _ required | createdUnseen volumes _ required
  | extended volumes _ _ _ required | extendedUnseen volumes _ _ _ required =>
    exact .listed (required.endsAtFailure.cons nofun)
  | uncreated volumes failure _ discarded =>
    exact .listed (discarded.endsAtFailure.cons nofun)
  | unextended volumes existing failure => exact .listed (EndsAtFailure.nil.cons nofun)
  | unchanged volumes => exact .listed .nil

theorem Removes.endsAtFailure {outcome : Except Failure Unit}
    (removes : Removes pool name before exchanges outcome after) :
    EndsAtFailure pool before exchanges after := by
  cases removes with
  | unlisted failure => exact .failed failure
  | absent volumes => exact .listed .nil
  | unremoved volumes existing failure => exact .listed (EndsAtFailure.nil.cons nofun)
  | removed volumes existing there refreshed =>
    exact .listed (refreshed.endsAtFailure.cons nofun)

theorem Mounts.endsAtFailure {outcome : Except Failure Volume}
    (mounts : Mounts pool name target before exchanges outcome after) :
    EndsAtFailure pool before exchanges after := by
  cases mounts with
  | missing required => exact required.endsAtFailure
  | unqueried failure required | already required | elsewhere required =>
    exact required.endsAtFailure_append (EndsAtFailure.nil.cons (by nofun))
  | refused failure required =>
    exact required.endsAtFailure_append ((EndsAtFailure.nil.cons (by nofun)).cons (by nofun))
  | mounted required listed =>
    exact required.endsAtFailure_append ((listed.endsAtFailure.cons (by nofun)).cons (by nofun))

theorem Unmounts.endsAtFailure {outcome : Except Failure Volume}
    (unmounts : Unmounts pool name before exchanges outcome after) :
    EndsAtFailure pool before exchanges after := by
  cases unmounts with
  | missing required => exact required.endsAtFailure
  | unqueried failure required | already required =>
    exact required.endsAtFailure_append (EndsAtFailure.nil.cons (by nofun))
  | refused place failure required =>
    exact required.endsAtFailure_append ((EndsAtFailure.nil.cons (by nofun)).cons (by nofun))
  | unmounted place required listed =>
    exact required.endsAtFailure_append ((listed.endsAtFailure.cons (by nofun)).cons (by nofun))

theorem endsAtFailure_of_list {outcome : Except Failure (List Volume)}
    (conversation : Converses (list pool) before exchanges outcome after) :
    EndsAtFailure pool before exchanges after := by
  rcases converses_bind_iff.1 conversation with
    ⟨looking, rest, _, middle, rfl, refreshed, given⟩ | ⟨failure, rfl, refreshed⟩
  · rw [converses_get_bind_iff] at given
    obtain ⟨rfl, rfl, rfl⟩ := converses_pure_iff.1 given
    rw [List.append_nil]
    exact (refreshes_of_converses refreshed).endsAtFailure
  · exact (refreshes_of_converses refreshed).endsAtFailure

/-- In every job a listing that fails is the last thing that is asked. -/
theorem Job.endsAtFailure {job : Job} {outcome : Except Failure job.Result}
    (conversation : Converses (job.operation pool) before exchanges outcome after) :
    EndsAtFailure pool before exchanges after := by
  cases job with
  | present name least => exact (presents_of_converses conversation).endsAtFailure
  | absent name => exact (removes_of_converses conversation).endsAtFailure
  | find name => exact (finds_of_converses conversation).endsAtFailure
  | list => exact endsAtFailure_of_list conversation
  | mounted name target => exact (mounts_of_converses conversation).endsAtFailure
  | unmounted name => exact (unmounts_of_converses conversation).endsAtFailure

end Pool

/-! ### Any backends -/

/-- Holds a dialogue with backends of any kind, which have a state and answer one question after
another. The result comes with the questions in order and with what became of the backends. -/
def Dialogue.heldBy {World Result : Type} (answer : (call : Call) → World → call.Answer × World) :
    Dialogue backends Result → World → Result × List Call × World
  | .done result, world => (result, [], world)
  | .ask call next, world =>
    let (given, changed) := answer call world
    let (result, calls, last) := (next given).heldBy answer changed
    (result, call :: calls, last)

theorem Dialogue.heldBy_map {World Result Later : Type}
    (answer : (call : Call) → World → call.Answer × World) (look : Result → Later)
    (dialogue : Dialogue backends Result) (world : World) :
    (look <$> dialogue).heldBy answer world =
      (look (dialogue.heldBy answer world).1, (dialogue.heldBy answer world).2) := by
  induction dialogue generalizing world with
  | done result => rfl
  | ask call next inductionHypothesis =>
    have following := inductionHypothesis (answer call world).1 (answer call world).2
    exact congrArg (fun ended => (ended.1, call :: ended.2.1, ended.2.2)) following

namespace Pool

/-- The roster that a manager keeps never matters. Whatever the backends are and whatever they do,
two managers with any rosters do the same jobs with the same outcomes, the same questions in the
same order and the same end of the backends, which are those of a manager that keeps no roster. Once
a listing came their rosters are equal, in particular after any job whose first listing came; a
listing that fails is the last thing that its job asks, and leaves the roster as it was before. -/
theorem roster_never_matters (pool : ThinPool) (jobs : List Job) (first second : Roster) :
    (∀ {World : Type} (answer : (call : Call) → World → call.Answer × World) (world : World),
      let one := (Job.doAll pool jobs first).heldBy answer world
      let other := (Job.doAll pool jobs second).heldBy answer world
      let afresh := (Job.doAllAfresh pool jobs).heldBy answer world
      (one.1.1, one.2) = afresh ∧ (other.1.1, other.2) = afresh) ∧
    (∀ {exchanges outcomes after},
      Dialogue.Held (Job.doAll pool jobs first) exchanges (outcomes, after) →
      (∃ volumes, Exchange.ofVolume (.list pool) (.ok volumes) ∈ exchanges) →
      Dialogue.Held (Job.doAll pool jobs second) exchanges (outcomes, after)) ∧
    ∀ {job : Job} {exchanges outcome after},
      Converses (job.operation pool) first exchanges outcome after →
      (∀ volumes rest, exchanges = .ofVolume (.list pool) (.ok volumes) :: rest →
        Converses (job.operation pool) second exchanges outcome after) ∧
      ∀ failure, Exchange.ofVolume (.list pool) (.error failure) ∈ exchanges →
        ∃ early, exchanges = early ++ [.ofVolume (.list pool) (.error failure)] ∧
          after = rosterAfter first early := by
  refine ⟨fun answer world => ⟨?_, ?_⟩, fun held listed => Job.held_doAll_of_listed held listed,
    fun conversation => ⟨fun volumes rest begun => ?_, Job.endsAtFailure conversation⟩⟩
  · rw [← Job.fst_doAll jobs first, Dialogue.heldBy_map]
  · rw [← Job.fst_doAll jobs second, Dialogue.heldBy_map]
  · rcases Job.converses_cases conversation with again | ⟨_, none, _⟩
    · exact again second
    · rw [begun] at none
      exact absurd List.mem_cons_self (none volumes)

/-- A manager that takes a volume for mounted at its old place and one that knows no volumes mount
it alike, and then they know the same. -/
theorem stale_roster_replaced :
    let stale := rosterOf [listedAt (some ⟨"/mnt/old"⟩)]
    let jobs := [.find "pg", .mounted "pg" ⟨"/mnt/a"⟩]
    let heard : List (Exchange backends) :=
      [.ofVolume (.list ⟨"vg0", "thinpool"⟩) (.ok [listedAt none]),
        .ofVolume (.list ⟨"vg0", "thinpool"⟩) (.ok [listedAt none]),
        .ofVolume (.queryMount ⟨"/dev/vg0/pg"⟩) (.ok none),
        .ofVolume (.mount ⟨"/dev/vg0/pg"⟩ ⟨"/mnt/a"⟩) (.ok ()),
        .ofVolume (.list ⟨"vg0", "thinpool"⟩) (.ok [listedAt (some ⟨"/mnt/a"⟩)])]
    ∃ outcomes,
      Dialogue.Held (Job.doAll ⟨"vg0", "thinpool"⟩ jobs stale) heard
        (outcomes, rosterOf [listedAt (some ⟨"/mnt/a"⟩)]) ∧
      Dialogue.Held (Job.doAll ⟨"vg0", "thinpool"⟩ jobs .empty) heard
        (outcomes, rosterOf [listedAt (some ⟨"/mnt/a"⟩)]) := by
  intro stale jobs heard
  have followed : ((Job.doAll ⟨"vg0", "thinpool"⟩ jobs stale).follow heard).map (·.2) =
      some (rosterOf [listedAt (some ⟨"/mnt/a"⟩)]) := by decide +kernel
  obtain ⟨⟨outcomes, after⟩, held, rfl⟩ := Option.map_eq_some_iff.1 followed
  have held := Dialogue.follow_eq_some_iff.1 held
  exact ⟨outcomes, held, (roster_never_matters _ jobs stale .empty).2.1 held
    ⟨_, List.mem_cons_self⟩⟩

end Pool

end NodeAgent
