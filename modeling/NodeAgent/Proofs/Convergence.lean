/-
This file lets any number of calls ask one pool for the same volume at the same time, each with a
size of its own. The pool has one lock, and who holds it asks the volume tools while the others
wait. So the calls are served one after another in some order, and where nothing fails the volume
ends with the largest size whatever the order is. Only how often it is extended depends on it.
-/

import NodeAgent.Proofs.Provision

namespace NodeAgent

open Operation Relation

/-- Whether a question asks to extend a volume. -/
def Call.isExtension : Call → Bool
  | volume (.extend _ _ _) => true
  | _ => false

/-- How many extensions are asked for in a conversation. -/
def extensionsOf (exchanges : List (Exchange backends)) : Nat :=
  (callsOf exchanges).countP Call.isExtension

theorem extensionsOf_cons (exchange : Exchange backends) (rest : List (Exchange backends)) :
    extensionsOf (exchange :: rest) =
      extensionsOf rest + if Call.isExtension exchange.question then 1 else 0 :=
  List.countP_cons

namespace Memory

variable {pool : ThinPool} {name : String} {least : Size} {world middle last : Backends}
  {before after roster between : Roster} {exchanges : List (Exchange backends)}

/-- How often the volume tools in memory were asked to extend a volume. -/
def Backends.extensions (world : Backends) : Nat :=
  (world.volumes.calls.map Call.volume).countP Call.isExtension

/-! ### What is recorded -/

theorem VolumeStore.calls_perform (store : VolumeStore) (call : VolumeCall) :
    (store.perform call).2.calls = store.calls := by
  cases call with
  | isThin | list | queryMount | copyTree => rfl
  | create pool name size =>
    show (store.create name size).2.calls = store.calls
    unfold create
    split
    · rfl
    dsimp only
    split <;> rfl
  | extend pool name size =>
    show (store.extend name size).2.calls = store.calls
    unfold extend
    split <;> rfl
  | remove pool name =>
    show (store.remove name).2.calls = store.calls
    unfold remove
    split <;> rfl
  | mount device target =>
    show (store.mount device target).2.calls = store.calls
    unfold mount
    split
    · rfl
    split <;> rfl
  | unmount device =>
    show (store.unmount device).2.calls = store.calls
    unfold unmount
    split <;> rfl

/-- Every call but the look at a pool is recorded. -/
theorem VolumeStore.calls_answer (store : VolumeStore) (call : VolumeCall) :
    (store.answer call).2.calls =
      store.calls ++ if (VolumeOp.ofCall? call).isSome then [call] else [] := by
  unfold answer
  cases VolumeOp.ofCall? call with
  | none => simpa using store.calls_perform call
  | some op =>
    dsimp only
    split
    · rfl
    · exact calls_perform _ call

theorem Backends.extensions_answer (world : Backends) (call : Call) :
    (answer call world).2.extensions =
      world.extensions + if call.isExtension then 1 else 0 := by
  cases call with
  | repository call => rfl
  | volume call =>
    unfold extensions
    show ((world.volumes.answer call).2.calls.map Call.volume).countP Call.isExtension = _
    rw [VolumeStore.calls_answer, List.map_append, List.countP_append]
    cases call with
    | isThin | list | create | extend | remove | queryMount | mount | unmount | copyTree => rfl

/-- The extensions that are asked for are recorded. -/
theorem Answered.extensions_eq (answered : Answered world exchanges last) :
    last.extensions = world.extensions + extensionsOf exchanges := by
  induction answered with
  | nil => rfl
  | cons call answered inductionHypothesis =>
    rw [inductionHypothesis, extensionsOf_cons, Backends.extensions_answer, Nat.add_assoc,
      Nat.add_comm (extensionsOf _)]

/-! ### One call -/

theorem extensionsOf_of_requires {outcome : Except Failure Volume}
    (requires : Pool.Requires pool name before exchanges outcome after) :
    extensionsOf exchanges = 0 := by
  cases requires with
  | found | missing | unlisted => rfl

/-- A volume is extended once where that is reported, and not at all otherwise. -/
theorem extensionsOf_of_presents {presence : Pool.Presence}
    (presents : Pool.Presents pool name least before exchanges (.ok presence) after) :
    extensionsOf exchanges = if presence.action = .extended then 1 else 0 := by
  cases presents with
  | created volumes notThere required | extended volumes existing there smaller required =>
    rw [extensionsOf_cons, extensionsOf_cons, extensionsOf_of_requires required]
    rfl
  | unchanged => rfl

/-- Where nothing fails, a call comes out well, and the volume is stored with the size that it asks
for or with the larger one that it had. -/
theorem provided_of_converses {outcome : Except Failure Pool.Presence}
    (works : ∀ op, ¬world.Fails op) (positive : 0 < least.bytes)
    (conversation : Converses (Pool.ensurePresent pool name least) before exchanges outcome after)
    (answered : Answered world exchanges last) :
    let stored := settledFor least (world.stored name)
    let action := actionFor least (world.stored name)
    outcome = .ok ⟨world.volumes.listed name stored, action⟩ ∧
      last.volumes.volumes = world.volumes.volumes.insert name stored ∧
      last.extensions = world.extensions + if action = .extended then 1 else 0 := by
  intro stored action
  have presents := Pool.presents_of_converses conversation
  obtain ⟨presence, rfl, _⟩ := presented_of_presents works positive presents answered
  obtain ⟨rfl, written⟩ := settled_of_converses conversation answered
  refine ⟨rfl, written, ?_⟩
  rw [answered.extensions_eq, extensionsOf_of_presents presents]

/-! ### Calls one after another -/

/-- A call with the size that it asked for and what came of it. -/
abbrev Served := Size × Except Failure Pool.Presence

/-- The sizes that were asked for, in order. -/
def askedFor (calls : List Served) : List Size := calls.map Prod.fst

theorem askedFor_concat (calls : List Served) (call : Served) :
    askedFor (calls ++ [call]) = askedFor calls ++ [call.1] := List.map_append

/-- Whether the call reports that the volume is new. -/
def Served.created (call : Served) : Bool :=
  match call.2 with
  | .ok presence => presence.created
  | .error _ => false

/-- The size of a volume that is stored, as a list of one or none. -/
def Backends.sizesOf (world : Backends) (name : String) : List Size :=
  (world.stored name).toList.map StoredVolume.size

/-- How many calls ask for more than all the given sizes and all the calls before, where the call
that creates the volume does not count. -/
def raises : List Size → List Served → Nat
  | _, [] => 0
  | known, call :: rest =>
    (if (∀ size ∈ known, size.bytes < call.1.bytes) ∧ call.created = false then 1 else 0) +
      raises (known ++ [call.1]) rest

/-- Calls that are served one after another, each from where the one before it ended. -/
inductive Serves (pool : ThinPool) (name : String) (world : Backends) (roster : Roster) :
    List Served → Backends → Roster → Prop where
  | nil : Serves pool name world roster [] world roster
  | concat {calls : List Served} {middle last : Backends} {between after : Roster} {least : Size}
      {outcome : Except Failure Pool.Presence}
      (served : Serves pool name world roster calls middle between)
      (held : middle.hold between (Pool.ensurePresent pool name least) = ((outcome, after), last)) :
      Serves pool name world roster (calls ++ [(least, outcome)]) last after

theorem raises_concat (known : List Size) (calls : List Served) (call : Served) :
    raises known (calls ++ [call]) = raises known calls +
      if (∀ size ∈ known ++ askedFor calls, size.bytes < call.1.bytes) ∧ call.created = false
        then 1 else 0 := by
  induction calls generalizing known with
  | nil => simp [raises, askedFor]
  | cons first rest inductionHypothesis =>
    rw [List.cons_append, raises, raises, inductionHypothesis, Nat.add_assoc, List.append_assoc]
    rfl

/-! ### The largest size -/

/-- The largest of some sizes, where there are any. -/
def largest? (sizes : List Size) : Option Int := (sizes.map Size.bytes).max?

theorem largest?_eq_some_iff {sizes : List Size} {bytes : Int} :
    largest? sizes = some bytes ↔
      (∃ size ∈ sizes, size.bytes = bytes) ∧ ∀ size ∈ sizes, size.bytes ≤ bytes := by
  unfold largest?
  rw [List.max?_eq_some_iff, List.mem_map, List.forall_mem_map]

theorem largest?_eq_none_iff {sizes : List Size} : largest? sizes = none ↔ sizes = [] := by
  unfold largest?
  rw [List.max?_eq_none_iff, List.map_eq_nil_iff]

theorem largest?_of_perm {first second : List Size} (same : first.Perm second) :
    largest? first = largest? second := by
  refine Option.ext fun bytes => ?_
  simp only [largest?_eq_some_iff, same.mem_iff]

theorem largest?_concat {known : List Size} {bytes : Int} (largest : largest? known = some bytes)
    (least : Size) : largest? (known ++ [least]) = some (max bytes least.bytes) := by
  obtain ⟨⟨size, member, rfl⟩, most⟩ := largest?_eq_some_iff.1 largest
  refine largest?_eq_some_iff.2 ⟨?_, ?_⟩
  · rcases le_total size.bytes least.bytes with smaller | larger
    · exact ⟨least, List.mem_append_right _ List.mem_cons_self, (max_eq_right smaller).symm⟩
    · exact ⟨size, List.mem_append_left _ member, (max_eq_left larger).symm⟩
  · simp only [List.forall_mem_append, List.forall_mem_singleton]
    exact ⟨fun other known => le_trans (most other known) (le_max_left _ _), le_max_right _ _⟩

theorem lt_iff_of_largest? {known : List Size} {bytes : Int} (largest : largest? known = some bytes)
    (least : Size) : bytes < least.bytes ↔ ∀ size ∈ known, size.bytes < least.bytes := by
  obtain ⟨⟨size, member, rfl⟩, most⟩ := largest?_eq_some_iff.1 largest
  exact ⟨fun smaller other known => Int.lt_of_le_of_lt (most other known) smaller,
    fun smaller => smaller size member⟩

/-! ### What is stored after calls -/

theorem size_settledFor_some (least : Size) (stored : StoredVolume) :
    (settledFor least (some stored)).size.bytes = max stored.size.bytes least.bytes := by
  unfold settledFor
  dsimp only
  split
  · next smaller => exact (max_eq_right (Int.le_of_lt smaller)).symm
  · next enough => exact (max_eq_left (Int.not_lt.1 enough)).symm

theorem le_size_settledFor (least : Size) (stored : Option StoredVolume) :
    least.bytes ≤ (settledFor least stored).size.bytes := by
  cases stored with
  | none => exact Int.le_refl _
  | some stored =>
    rw [size_settledFor_some]
    exact le_max_right _ _

theorem target_settledFor (least : Size) (stored : Option StoredVolume) :
    (settledFor least stored).target = stored.bind StoredVolume.target := by
  cases stored with
  | none => rfl
  | some stored =>
    unfold settledFor
    dsimp only
    split <;> rfl

/-- What is stored is its size and its target. -/
theorem stored_eq_of_size {first second : Option StoredVolume}
    (sizes : first.map (·.size.bytes) = second.map (·.size.bytes))
    (targets : first.bind StoredVolume.target = second.bind StoredVolume.target) :
    first = second := by
  match first, second with
  | none, none => rfl
  | some ⟨⟨bytes⟩, target⟩, some ⟨⟨same⟩, place⟩ =>
    cases sizes
    cases targets
    rfl

/-- A volume has the largest of some sizes, where there are any, and nothing else has changed. -/
structure Raised (world : Backends) (name : String) (known : List Size) (last : Backends) :
    Prop where
  largest : largest? known = (last.stored name).map (·.size.bytes)
  target : last.volumes.targetOf name = world.volumes.targetOf name
  others : ∀ other, other ≠ name → last.stored other = world.stored other

namespace Raised

variable {known : List Size}

theorem refl (world : Backends) (name : String) :
    Raised world name (world.sizesOf name) world where
  largest := by
    unfold Backends.sizesOf
    cases world.stored name <;> rfl
  target := rfl
  others _ _ := rfl

/-- One more call. -/
theorem concat (raised : Raised world name known middle)
    (written : last.volumes.volumes =
      middle.volumes.volumes.insert name (settledFor least (middle.stored name))) :
    Raised world name (known ++ [least]) last := by
  have there : last.stored name = some (settledFor least (middle.stored name)) := by
    unfold Backends.stored
    rw [written, Table.get?_insert_self]
    rfl
  have largest := raised.largest
  refine ⟨?_, ?_, fun other different => ?_⟩
  · rw [there]
    cases held : middle.stored name with
    | none =>
      rw [held] at largest
      obtain rfl := largest?_eq_none_iff.1 largest
      rfl
    | some stored =>
      rw [held] at largest
      rw [largest?_concat largest, Option.map_some, size_settledFor_some]
  · rw [← raised.target, Backends.targetOf_of_stored there, target_settledFor]
    rfl
  · rw [← raised.others other different]
    unfold Backends.stored
    rw [written]
    exact Table.get?_insert_other _ _ different

/-- The volumes do not depend on the order in which the sizes were asked for. -/
theorem volumes_eq {also : List Size} {other : Backends} (raised : Raised world name known last)
    (raisedToo : Raised world name also other) (same : known.Perm also) :
    last.volumes.volumes = other.volumes.volumes := by
  refine Table.ext_get? fun key => ?_
  by_cases named : key = name
  · subst named
    exact stored_eq_of_size (raised.largest.symm.trans
      ((largest?_of_perm same).trans raisedToo.largest)) (raised.target.trans raisedToo.target.symm)
  · exact (raised.others key named).trans (raisedToo.others key named).symm

end Raised

/-! ### All calls -/

/-- What calls come to that ask for one volume one after another. -/
structure Converged (world : Backends) (name : String) (calls : List Served) (last : Backends) :
    Prop where
  served : ∀ call ∈ calls, ∃ presence, call.2 = .ok presence ∧
    call.1.bytes ≤ presence.volume.size.bytes
  raised : Raised world name (world.sizesOf name ++ askedFor calls) last
  created : calls.countP Served.created = if world.stored name = none ∧ calls ≠ [] then 1 else 0
  extended : last.extensions = world.extensions + raises (world.sizesOf name) calls

theorem sizesOf_append_eq_nil_iff {calls : List Served} :
    world.sizesOf name ++ askedFor calls = [] ↔ world.stored name = none ∧ calls = [] := by
  unfold Backends.sizesOf askedFor
  simp [List.append_eq_nil_iff]

/-- The report of a call that came out well, where the volume was stored as given. -/
def servedWith (least : Size) (volume : Volume) (stored : Option StoredVolume) : Served :=
  (least, .ok ⟨volume, actionFor least stored⟩)

theorem created_servedWith {volume : Volume} {stored : Option StoredVolume} :
    (servedWith least volume stored).created = true ↔ stored = none := by
  unfold servedWith Served.created Pool.Presence.created actionFor
  cases stored with
  | none => exact iff_of_true rfl rfl
  | some stored =>
    dsimp only
    split <;> exact iff_of_false nofun nofun

/-- A volume is extended where the call asks for more than everything known and does not create
it. -/
theorem Raised.extends_iff {known : List Size} {volume : Volume}
    (raised : Raised world name known middle) :
    actionFor least (middle.stored name) = .extended ↔
      (∀ size ∈ known, size.bytes < least.bytes) ∧
        (servedWith least volume (middle.stored name)).created = false := by
  rw [Bool.eq_false_iff, Ne, created_servedWith]
  have largest := raised.largest
  cases held : middle.stored name with
  | none => exact iff_of_false nofun fun both => both.2 rfl
  | some stored =>
    rw [held] at largest
    rw [← lt_iff_of_largest? largest least]
    unfold actionFor
    by_cases smaller : stored.size.bytes < least.bytes
    · simp [smaller]
    · simp [smaller]

/-- One call more. -/
theorem Converged.concat {calls : List Served} {outcome : Except Failure Pool.Presence}
    (converged : Converged world name calls middle) (works : ∀ op, ¬middle.Fails op)
    (positive : 0 < least.bytes)
    (conversation : Converses (Pool.ensurePresent pool name least) before exchanges outcome after)
    (answered : Answered middle exchanges last) :
    Converged world name (calls ++ [(least, outcome)]) last := by
  obtain ⟨well, written, extended⟩ := provided_of_converses works positive conversation answered
  have raised := converged.raised
  -- Of the record only the size matters, and only in the first of the four parts.
  generalize named : middle.volumes.listed name _ = volume at well
  have call : (least, outcome) = servedWith least volume (middle.stored name) := by rw [well]; rfl
  rw [call]
  have first : middle.stored name = none ↔ world.stored name = none ∧ calls = [] := by
    rw [← sizesOf_append_eq_nil_iff, ← largest?_eq_none_iff, raised.largest, Option.map_eq_none_iff]
  refine ⟨?_, ?_, ?_, ?_⟩
  · refine List.forall_mem_append.2 ⟨converged.served, List.forall_mem_singleton.2 ?_⟩
    refine ⟨_, rfl, ?_⟩
    rw [← named]
    exact le_size_settledFor least _
  · rw [askedFor_concat, ← List.append_assoc]
    exact raised.concat written
  · rw [List.countP_append, List.countP_singleton, converged.created]
    simp only [created_servedWith, first]
    by_cases absent : world.stored name = none
    · by_cases none : calls = []
      · simp [absent, none]
      · simp [absent, none]
    · simp [absent]
  · rw [extended, converged.extended, raises_concat, Nat.add_assoc]
    exact congrArg _ (congrArg _ (if_congr raised.extends_iff rfl rfl))

/-- So it goes for all calls that are served one after another. -/
theorem Serves.converged {calls : List Served} (works : ∀ op, ¬world.Fails op)
    (served : Serves pool name world roster calls last after)
    (positive : ∀ size ∈ askedFor calls, 0 < size.bytes) :
    (∀ op, ¬last.Fails op) ∧ Converged world name calls last := by
  induction served with
  | nil =>
    refine ⟨works, nofun, ?_, ?_, rfl⟩
    · unfold askedFor
      rw [List.map_nil, List.append_nil]
      exact .refl world name
    · simp
  | @concat calls middle last between after least outcome served held inductionHypothesis =>
    rw [askedFor_concat, List.forall_mem_append, List.forall_mem_singleton] at positive
    obtain ⟨exchanges, conversation, answered⟩ := Backends.hold_iff.1 held
    obtain ⟨still, converged⟩ := inductionHypothesis positive.1
    exact ⟨answered.works still, converged.concat still positive.2 conversation answered⟩

/-! ### Calls at the same time -/

/-- Calls that share a pool: those that wait for its lock, the one that holds it with what it has
still to ask, and those that are done, in the order in which they held it. -/
structure Sharing where
  world : Backends
  roster : Roster
  waiting : List Size
  holder : Option (Size × Dialogue backends (Except Failure Pool.Presence × Roster))
  finished : List Served

namespace Sharing

/-- All calls wait. -/
def start (world : Backends) (roster : Roster) (sizes : List Size) : Sharing :=
  ⟨world, roster, sizes, none, []⟩

/-- All calls are done. -/
def Finished (sharing : Sharing) : Prop := sharing.waiting = [] ∧ sharing.holder = none

/-- One step: any call that waits takes the lock that is free, the one that holds it asks, or it is
done and gives it back. -/
inductive Step (pool : ThinPool) (name : String) : Sharing → Sharing → Prop where
  | takes {world roster finished} {early late : List Size} (least : Size) :
      Step pool name ⟨world, roster, early ++ least :: late, none, finished⟩
        ⟨world, roster, early ++ late,
          some (least, (Pool.ensurePresent pool name least).run roster), finished⟩
  | asks {world roster waiting least finished} (call : Call)
      (next : call.Answer → Dialogue backends (Except Failure Pool.Presence × Roster)) :
      Step pool name ⟨world, roster, waiting, some (least, .ask call next), finished⟩
        ⟨(Backends.answer call world).2, roster, waiting,
          some (least, next (Backends.answer call world).1), finished⟩
  | leaves {world roster waiting least finished} (outcome : Except Failure Pool.Presence)
      (after : Roster) :
      Step pool name ⟨world, roster, waiting, some (least, .done (outcome, after)), finished⟩
        ⟨world, after, waiting, none, finished ++ [(least, outcome)]⟩

/-- What can come of some steps. -/
abbrev Runs (pool : ThinPool) (name : String) : Sharing → Sharing → Prop :=
  ReflTransGen (Step pool name)

variable {sharing next reached : Sharing} {sizes : List Size}

/-- Where the calls that are done were served in turn up to here, the one that holds the lock comes
to what it would have come to from here. -/
def HeldSince (pool : ThinPool) (name : String) (middle : Backends) (between : Roster)
    (sharing : Sharing) : Prop :=
  match sharing.holder with
  | none => sharing.world = middle ∧ sharing.roster = between
  | some (least, rest) =>
    (@Dialogue.answerBy backends _ (StateM Backends) _ Backends.answer rest).run sharing.world =
      middle.hold between (Pool.ensurePresent pool name least)

/-- The sizes that all calls ask for: those that are done, the one that holds the lock, and those
that wait. -/
def everyone (sharing : Sharing) : List Size :=
  askedFor sharing.finished ++ match sharing.holder with
    | none => sharing.waiting
    | some (least, _) => least :: sharing.waiting

/-- The calls that are done were served in turn, and no call is lost. -/
structure Serialises (pool : ThinPool) (name : String) (world : Backends) (roster : Roster)
    (sizes : List Size) (sharing : Sharing) : Prop where
  served : ∃ middle between, Serves pool name world roster sharing.finished middle between ∧
    sharing.HeldSince pool name middle between
  everyone : sharing.everyone.Perm sizes

theorem Serialises.step (serialises : sharing.Serialises pool name world roster sizes)
    (step : Step pool name sharing next) : next.Serialises pool name world roster sizes := by
  obtain ⟨⟨middle, between, served, since⟩, all⟩ := serialises
  cases step with
  | takes least =>
    obtain ⟨rfl, rfl⟩ := since
    exact ⟨⟨_, _, served, rfl⟩, (List.perm_middle.symm.append_left _).trans all⟩
  | asks call next => exact ⟨⟨middle, between, served, since⟩, all⟩
  | @leaves _ _ _ _ finished outcome after =>
    refine ⟨⟨_, _, served.concat since.symm, rfl, rfl⟩, ?_⟩
    unfold Sharing.everyone at all ⊢
    dsimp only at all ⊢
    rw [askedFor_concat, List.append_assoc]
    exact all

theorem Serialises.runs (runs : Runs pool name (start world roster sizes) reached) :
    reached.Serialises pool name world roster sizes := by
  induction runs with
  | refl => exact ⟨⟨world, roster, .nil, rfl, rfl⟩, .refl _⟩
  | tail _ step inductionHypothesis => exact inductionHypothesis.step step

/-! ### Every run ends -/

/-- The holder of the lock can be this later: it has asked a question, or it has left. -/
inductive Later : Option (Size × Dialogue backends (Except Failure Pool.Presence × Roster)) →
    Option (Size × Dialogue backends (Except Failure Pool.Presence × Roster)) → Prop where
  | asked {least : Size} {call : Call}
      {next : call.Answer → Dialogue backends (Except Failure Pool.Presence × Roster)}
      (answer : call.Answer) : Later (some (least, next answer)) (some (least, .ask call next))
  | left {holder} : Later none (some holder)

theorem acc_none : Acc Later none := ⟨_, fun _ later => nomatch later⟩

theorem wellFounded_later : WellFounded Later := by
  refine ⟨fun holder => ?_⟩
  match holder with
  | none => exact acc_none
  | some (least, rest) =>
    -- A question can have infinitely many answers, so no number bounds how many are still asked;
    -- the induction is on the dialogue.
    induction rest with
    | done result =>
      refine ⟨_, fun next later => ?_⟩
      cases later with
      | left => exact acc_none
    | ask call next inductionHypothesis =>
      refine ⟨_, fun next later => ?_⟩
      cases later with
      | asked answer => exact inductionHypothesis answer
      | left => exact acc_none

/-- No run goes on for ever: with each step fewer calls wait, or the one that holds the lock has
less to do. -/
theorem wellFounded_step (pool : ThinPool) (name : String) :
    WellFounded fun later earlier => Step pool name earlier later := by
  refine Subrelation.wf (fun {next sharing} step => ?_) (InvImage.wf
    (fun sharing : Sharing => (sharing.waiting.length, sharing.holder))
    (Nat.lt_wfRel.wf.prod_lex wellFounded_later))
  cases step with
  | @takes _ _ _ early late least =>
    refine .left _ _ ?_
    show (early ++ late).length < (early ++ least :: late).length
    simp
  | asks call next => exact .right _ (.asked _)
  | leaves outcome after => exact .right _ .left

/-- As long as a call is not done, there is a next step. -/
theorem finished_or_step (pool : ThinPool) (name : String) (sharing : Sharing) :
    sharing.Finished ∨ ∃ next, Step pool name sharing next := by
  match sharing with
  | ⟨_, _, [], none, _⟩ => exact .inl ⟨rfl, rfl⟩
  | ⟨_, _, least :: late, none, _⟩ => exact .inr ⟨_, @Step.takes pool name _ _ _ [] late least⟩
  | ⟨_, _, _, some (_, .ask call next), _⟩ => exact .inr ⟨_, .asks call next⟩
  | ⟨_, _, _, some (_, .done (outcome, after)), _⟩ => exact .inr ⟨_, .leaves outcome after⟩

/-- Who holds the lock can go on until it gives it back. -/
theorem exists_runs_of_holder (pool : ThinPool) (name : String) (world : Backends)
    (roster : Roster) (waiting : List Size) (least : Size) (finished : List Served)
    (rest : Dialogue backends (Except Failure Pool.Presence × Roster)) :
    ∃ last after outcome, Runs pool name ⟨world, roster, waiting, some (least, rest), finished⟩
      ⟨last, after, waiting, none, finished ++ [(least, outcome)]⟩ := by
  induction rest generalizing world with
  | done result => exact ⟨world, result.2, result.1, .single (.leaves result.1 result.2)⟩
  | ask call next inductionHypothesis =>
    obtain ⟨last, after, outcome, runs⟩ := inductionHypothesis _ (Backends.answer call world).2
    exact ⟨last, after, outcome, runs.head (.asks call next)⟩

/-- The calls can be served in every order. -/
theorem exists_runs_of_perm {order waiting : List Size} (same : order.Perm waiting)
    (world : Backends) (roster : Roster) (finished : List Served) :
    ∃ last, Runs pool name ⟨world, roster, waiting, none, finished⟩ last ∧ last.Finished ∧
      askedFor last.finished = askedFor finished ++ order := by
  induction order generalizing waiting world roster finished with
  | nil =>
    obtain rfl := same.nil_eq
    exact ⟨_, .refl, ⟨rfl, rfl⟩, (List.append_nil _).symm⟩
  | cons least rest inductionHypothesis =>
    obtain ⟨early, late, rfl⟩ := List.append_of_mem (same.subset List.mem_cons_self)
    have others : rest.Perm (early ++ late) := (same.trans List.perm_middle).cons_inv
    obtain ⟨served, after, outcome, holds⟩ := exists_runs_of_holder pool name world roster
      (early ++ late) least finished ((Pool.ensurePresent pool name least).run roster)
    obtain ⟨last, runs, done, asked⟩ := inductionHypothesis others served after
      (finished ++ [(least, outcome)])
    refine ⟨last, (holds.trans runs).head (.takes least), done, ?_⟩
    rw [asked, askedFor_concat, List.append_assoc]
    rfl

/-- What calls come to that ask for the same volume at the same time. -/
structure Settles (world : Backends) (name : String) (sizes : List Size) (last : Sharing) :
    Prop where
  everyone : (askedFor last.finished).Perm sizes
  served : ∀ call ∈ last.finished, ∃ presence, call.2 = .ok presence ∧
    call.1.bytes ≤ presence.volume.size.bytes
  largest : ∃ stored, last.world.stored name = some stored ∧
    largest? (world.sizesOf name ++ sizes) = some stored.size.bytes
  created : last.finished.countP Served.created = if world.stored name = none then 1 else 0
  extended : last.world.extensions =
    world.extensions + raises (world.sizesOf name) last.finished

theorem Serialises.converged (serialises : reached.Serialises pool name world roster sizes)
    (done : reached.Finished) (works : ∀ op, ¬world.Fails op)
    (positive : ∀ size ∈ sizes, 0 < size.bytes) :
    (askedFor reached.finished).Perm sizes ∧
      Converged world name reached.finished reached.world := by
  obtain ⟨⟨middle, between, served, since⟩, all⟩ := serialises
  unfold HeldSince at since
  unfold Sharing.everyone at all
  rw [done.2] at since all
  rw [done.1] at all
  obtain ⟨rfl, rfl⟩ := since
  have same : (askedFor reached.finished).Perm sizes := by simpa using all
  exact ⟨same, (served.converged works fun size member => positive size (same.subset member)).2⟩

/-- Calls that ask at the same time for the same volume with sizes of their own all come out well,
however they get at the lock: every run ends with all calls done, any order is possible, and the
volume has the largest size whatever the order was. -/
theorem sharing_converges (world : Backends) (roster : Roster) (pool : ThinPool) (name : String)
    (sizes : List Size) (works : world.volumes.failing = []) (asked : sizes ≠ [])
    (positive : ∀ size ∈ sizes, 0 < size.bytes) :
    Acc (fun later earlier => Step pool name earlier later) (start world roster sizes) ∧
      (∀ reached, Runs pool name (start world roster sizes) reached →
        reached.Finished ∨ ∃ next, Step pool name reached next) ∧
      (∀ order, order.Perm sizes → ∃ last, Runs pool name (start world roster sizes) last ∧
        last.Finished ∧ askedFor last.finished = order) ∧
      ∀ last, Runs pool name (start world roster sizes) last → last.Finished →
        Settles world name sizes last ∧
          ∀ other, Runs pool name (start world roster sizes) other → other.Finished →
            other.world.volumes.volumes = last.world.volumes.volumes := by
  have working : ∀ op, ¬world.Fails op := fun op fails => by
    unfold Backends.Fails at fails
    rw [works] at fails
    cases fails
  refine ⟨(wellFounded_step pool name).apply _, fun reached _ => finished_or_step pool name reached,
    fun order same => exists_runs_of_perm same world roster [], fun last runs done => ?_⟩
  obtain ⟨same, converged⟩ := (Serialises.runs runs).converged done working positive
  refine ⟨⟨same, converged.served, ?_, ?_, converged.extended⟩, fun other runsToo doneToo => ?_⟩
  · have largest := converged.raised.largest
    rw [largest?_of_perm (same.append_left _)] at largest
    cases held : last.world.stored name with
    | some stored =>
      rw [held] at largest
      exact ⟨stored, rfl, largest⟩
    | none =>
      rw [held] at largest
      exact absurd (List.append_eq_nil_iff.1 (largest?_eq_none_iff.1 largest)).2 asked
  · rw [converged.created]
    have some : last.finished ≠ [] := by
      rintro none
      rw [none] at same
      exact asked same.nil_eq.symm
    simp [some]
  · obtain ⟨sameToo, convergedToo⟩ := (Serialises.runs runsToo).converged doneToo working positive
    exact convergedToo.raised.volumes_eq converged.raised
      ((sameToo.trans same.symm).append_left _)

theorem raises_of_two {known : List Size} {calls : List Served} {first second : Size}
    (asked : askedFor calls = [first, second]) (old : calls.countP Served.created = 0) :
    raises known calls = (if ∀ size ∈ known, size.bytes < first.bytes then 1 else 0) +
      if ∀ size ∈ known ++ [first], size.bytes < second.bytes then 1 else 0 := by
  match calls, asked with
  | [early, late], asked =>
    cases asked
    have uncreated := List.countP_eq_zero.1 old
    simp only [List.mem_cons, List.not_mem_nil, or_false, forall_eq_or_imp, forall_eq,
      Bool.not_eq_true] at uncreated
    simp only [raises, uncreated.1, uncreated.2, and_true, Nat.add_zero]

/-- Two calls for a volume of one gibibyte, with two and with three: in one order it is extended
twice, in the other once, and it ends with three. -/
theorem extended_in_either_order :
    let pool : ThinPool := ⟨"vg0", "thinpool"⟩
    let before := start (oneVolume []) .empty [⟨2147483648⟩, ⟨3221225472⟩]
    ∃ rising falling,
      (Runs pool "pg" before rising ∧ rising.Finished ∧
        askedFor rising.finished = [⟨2147483648⟩, ⟨3221225472⟩]) ∧
      (Runs pool "pg" before falling ∧ falling.Finished ∧
        askedFor falling.finished = [⟨3221225472⟩, ⟨2147483648⟩]) ∧
      rising.world.extensions = 2 ∧ falling.world.extensions = 1 ∧
      (rising.world.stored "pg").map (·.size.bytes) = some 3221225472 ∧
      falling.world.volumes.volumes = rising.world.volumes.volumes := by
  intro pool before
  obtain ⟨_, _, possible, settles⟩ := sharing_converges (oneVolume []) .empty pool "pg"
    [⟨2147483648⟩, ⟨3221225472⟩] rfl (by simp) (by decide)
  obtain ⟨rising, runs, done, asked⟩ := possible [⟨2147483648⟩, ⟨3221225472⟩] (.refl _)
  obtain ⟨falling, runsToo, doneToo, askedToo⟩ :=
    possible [⟨3221225472⟩, ⟨2147483648⟩] (.swap _ _ _)
  obtain ⟨risen, same⟩ := settles rising runs done
  obtain ⟨fallen, _⟩ := settles falling runsToo doneToo
  refine ⟨rising, falling, ⟨runs, done, asked⟩, ⟨runsToo, doneToo, askedToo⟩, ?_, ?_, ?_,
    same falling runsToo doneToo⟩
  · rw [risen.extended, raises_of_two asked (risen.created.trans (by decide +kernel))]
    decide +kernel
  · rw [fallen.extended, raises_of_two askedToo (fallen.created.trans (by decide +kernel))]
    decide +kernel
  · obtain ⟨stored, there, largest⟩ := risen.largest
    rw [there]
    exact largest.symm.trans (by decide +kernel)

end Sharing

end Memory

end NodeAgent
