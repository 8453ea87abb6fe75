/-
This file counts who refers to the locks of the volumes while any number of calls are at work. A
lock is an object of its own: the table may lose one and get another for the same volume. Those who
refer to a lock are counted: the table and the calls that fetched it. A lock to which only the table
refers may be removed. What carries the proofs is that a call never refers to a lock that the table
has lost, so that all calls for a volume wait for the same one.
-/

import Mathlib.Data.Multiset.Count
import NodeAgent.Proofs.Errand

namespace NodeAgent

/-! ### Calls at the same time -/

/-- What all calls share: the agent, whose table says which volumes have a lock, the locks that the
table refers to, how many refer to each lock, which locks are held, and how many were made. -/
structure Shared where
  agent : Agent
  lockOf : String → Nat
  references : Nat → Nat
  held : Nat → Bool
  made : Nat

/-- How far a call has come. -/
inductive Stage where
  | arriving
  | waiting (lock : Nat)
  | inside (lock : Nat) (rest : Dialogue steps (Except Failure Reply))
  | looking
  | sweeping

namespace Stage

/-- The lock that the call refers to. -/
def lock? : Stage → Option Nat
  | waiting lock | inside lock _ => some lock
  | arriving | looking | sweeping => none

/-- The lock that the call holds. -/
def holds? : Stage → Option Nat
  | inside lock _ => some lock
  | arriving | waiting _ | looking | sweeping => none

/-- Whether the call has come to the locks. -/
def Begun : Stage → Prop
  | arriving => False
  | waiting _ | inside _ _ | looking | sweeping => True

end Stage

/-- A call that is not finished. -/
structure Ongoing where
  request : Request
  stage : Stage

namespace Ongoing

/-- The volume that the call is for. -/
def volume (call : Ongoing) : String := call.request.volume

/-- Whether the call works on the volume under its lock. -/
def Inside (volume : String) (call : Ongoing) : Prop :=
  call.volume = volume ∧ call.stage.holds?.isSome = true

instance (volume : String) : DecidablePred (Inside volume) := fun _ =>
  inferInstanceAs (Decidable (_ ∧ _))

end Ongoing

namespace Shared

/-- Before any call. -/
def fresh (roster : Roster) : Shared := ⟨.fresh roster, fun _ => 0, fun _ => 0, fun _ => false, 0⟩

/-- Whether the table has a lock of the volume. -/
def Has (shared : Shared) (volume : String) : Prop := shared.agent.locks.contains volume = true

instance (shared : Shared) (volume : String) : Decidable (shared.Has volume) :=
  inferInstanceAs (Decidable (_ = true))

/-- One more refers to the lock of a volume. -/
def clone (shared : Shared) (volume : String) : Shared :=
  let lock := shared.lockOf volume
  { shared with
    references := Function.update shared.references lock (shared.references lock + 1) }

/-- A new lock of a volume, to which the table and one call refer. -/
def make (shared : Shared) (volume : String) : Shared where
  agent := shared.agent.locked volume
  lockOf := Function.update shared.lockOf volume shared.made
  references := Function.update shared.references shared.made 2
  held := Function.update shared.held shared.made false
  made := shared.made + 1

/-- Refers to the lock of a volume, which is made where there is none. -/
def fetch (shared : Shared) (volume : String) : Shared :=
  if shared.Has volume then shared.clone volume else shared.make volume

/-- Takes a lock that nobody holds. -/
def take (shared : Shared) (lock : Nat) : Shared :=
  { shared with held := Function.update shared.held lock true }

/-- Gives a lock back, and no longer refers to it. -/
def drop (shared : Shared) (lock : Nat) : Shared :=
  { shared with
    references := Function.update shared.references lock (shared.references lock - 1)
    held := Function.update shared.held lock false }

/-- Removes the lock of a volume from the table, which no longer refers to it. -/
def remove (shared : Shared) (volume : String) : Shared :=
  let lock := shared.lockOf volume
  { shared with
    agent := shared.agent.unlocked volume
    references := Function.update shared.references lock (shared.references lock - 1) }

/-- Removes the lock of a volume where only the table refers to it. -/
def sweep (shared : Shared) (volume : String) : Shared :=
  if shared.Has volume ∧ shared.references (shared.lockOf volume) = 1 then shared.remove volume
  else shared

theorem has_make_iff {shared : Shared} {volume other : String} :
    (shared.make volume).Has other ↔ other = volume ∨ shared.Has other := by
  show ((shared.agent.locks.insert volume ()).get? other).isSome = true ↔ _
  by_cases same : other = volume
  · subst same
    simp
  · rw [Table.get?_insert_other _ _ same]
    exact ⟨Or.inr, fun either => either.resolve_left same⟩

theorem has_remove_iff {shared : Shared} {volume other : String} :
    (shared.remove volume).Has other ↔ other ≠ volume ∧ shared.Has other := by
  show ((shared.agent.locks.erase volume).get? other).isSome = true ↔ _
  by_cases same : other = volume
  · subst same
    simp
  · rw [Table.get?_erase_other _ same]
    exact ⟨fun there => ⟨same, there⟩, fun both => both.2⟩

end Shared

/-- The steps after which a call goes on. -/
inductive Proceeds (settings : Settings) : Shared → Ongoing → Shared → Ongoing → Prop where
  | fetched {shared request} (valid : request.check settings = .ok ()) :
      Proceeds settings shared ⟨request, .arriving⟩ (shared.fetch request.volume)
        ⟨request, .waiting ((shared.fetch request.volume).lockOf request.volume)⟩
  | taken {shared request lock} (free : shared.held lock = false) :
      Proceeds settings shared ⟨request, .waiting lock⟩ (shared.take lock)
        ⟨request, .inside lock (request.errand settings).run⟩
  | asked {shared request lock call next} (answer : call.Answer) :
      Proceeds settings shared ⟨request, .inside lock (.ask (.ask call) next)⟩ shared
        ⟨request, .inside lock (next answer)⟩
  | visited {shared request lock change next} :
      Proceeds settings shared ⟨request, .inside lock (.ask (.visit change) next)⟩
        { shared with agent := change shared.agent } ⟨request, .inside lock (next shared.agent)⟩
  | dropped {shared request lock outcome} (sweeps : request.sweeps = true) :
      Proceeds settings shared ⟨request, .inside lock (.done outcome)⟩ (shared.drop lock)
        ⟨request, .looking⟩
  | looked {shared request} (unpublished : shared.agent.phase request.volume = .unpublished) :
      Proceeds settings shared ⟨request, .looking⟩ shared ⟨request, .sweeping⟩

/-- The steps with which a call is finished. -/
inductive Finishes (settings : Settings) : Shared → Ongoing → Shared → Prop where
  | refused {shared request failure} (invalid : request.check settings = .error failure) :
      Finishes settings shared ⟨request, .arriving⟩ shared
  | dropped {shared request lock outcome} (sweeps : request.sweeps = false) :
      Finishes settings shared ⟨request, .inside lock (.done outcome)⟩ (shared.drop lock)
  | looked {shared request} (other : shared.agent.phase request.volume ≠ .unpublished) :
      Finishes settings shared ⟨request, .looking⟩ shared
  | swept {shared request} :
      Finishes settings shared ⟨request, .sweeping⟩ (shared.sweep request.volume)

/-! ### The locks and those who refer to them -/

/-- How many of the calls are at a lock in one way: refer to it, or hold it. -/
def tally (which : Stage → Option Nat) (calls : Multiset Ongoing) (lock : Nat) : Nat :=
  calls.countP fun call => which call.stage = some lock

section Tally

variable {which : Stage → Option Nat} {calls : Multiset Ongoing} {call : Ongoing} {lock : Nat}

theorem tally_cons_self (here : which call.stage = some lock) :
    tally which (call ::ₘ calls) lock = tally which calls lock + 1 :=
  Multiset.countP_cons_of_pos _ here

theorem tally_cons_other (elsewhere : which call.stage ≠ some lock) :
    tally which (call ::ₘ calls) lock = tally which calls lock :=
  Multiset.countP_cons_of_neg _ elsewhere

theorem tally_cons_congr {other : Ongoing} (same : which call.stage = which other.stage) :
    tally which (call ::ₘ calls) lock = tally which (other ::ₘ calls) lock := by
  unfold tally
  rw [Multiset.countP_cons, Multiset.countP_cons, same]

theorem tally_eq_zero_iff :
    tally which calls lock = 0 ↔ ∀ call ∈ calls, which call.stage ≠ some lock :=
  Multiset.countP_eq_zero

theorem holders_cons_waiting (request : Request) (fetched : Nat) :
    tally Stage.holds? (⟨request, .waiting fetched⟩ ::ₘ calls) lock =
      tally Stage.holds? calls lock :=
  tally_cons_other (Option.some_ne_none lock).symm

end Tally

/-- Each call refers to the lock that the table has for its volume, the counts are right, and a lock
is held by one call at most. -/
structure Tallied (shared : Shared) (calls : Multiset Ongoing) : Prop where
  current : ∀ call ∈ calls, ∀ lock, call.stage.lock? = some lock →
    shared.Has call.volume ∧ shared.lockOf call.volume = lock
  references : ∀ volume, shared.Has volume →
    shared.references (shared.lockOf volume) =
      tally Stage.lock? calls (shared.lockOf volume) + 1
  holders : ∀ volume, shared.Has volume →
    tally Stage.holds? calls (shared.lockOf volume) =
      if shared.held (shared.lockOf volume) then 1 else 0
  distinct : ∀ first second, shared.Has first → shared.Has second →
    shared.lockOf first = shared.lockOf second → first = second
  made : ∀ volume, shared.Has volume → shared.lockOf volume < shared.made

theorem Stage.holds?_of_lock? {stage : Stage} (idle : stage.lock? = none) :
    stage.holds? = none := by
  cases stage with
  | arriving | looking | sweeping | waiting => rfl
  | inside => cases idle

theorem Stage.lock?_of_holds? {stage : Stage} {lock : Nat} (holds : stage.holds? = some lock) :
    stage.lock? = some lock := by
  cases stage with
  | arriving | looking | sweeping | waiting => cases holds
  | inside => exact holds

namespace Tallied

variable {settings : Settings} {shared : Shared} {calls rest : Multiset Ongoing} {call : Ongoing}
  {request : Request} {lock : Nat}

theorem fresh (roster : Roster) : Tallied (.fresh roster) 0 where
  current _ member := absurd member (Multiset.notMem_zero _)
  references _ has := nomatch has
  holders _ has := nomatch has
  distinct _ _ has := nomatch has
  made _ has := nomatch has

/-- Calls that refer to no lock do not count. -/
theorem cons_iff (idle : call.stage.lock? = none) :
    Tallied shared (call ::ₘ rest) ↔ Tallied shared rest := by
  have noLock : ∀ lock, tally Stage.lock? (call ::ₘ rest) lock = tally Stage.lock? rest lock :=
    fun lock => tally_cons_other (by simp [idle])
  have noHold : ∀ lock, tally Stage.holds? (call ::ₘ rest) lock = tally Stage.holds? rest lock :=
    fun lock => tally_cons_other (by simp [Stage.holds?_of_lock? idle])
  constructor
  · intro tallied
    refine ⟨fun other member => tallied.current other (Multiset.mem_cons_of_mem member), ?_, ?_,
      tallied.distinct, tallied.made⟩
    · simpa only [noLock] using tallied.references
    · simpa only [noHold] using tallied.holders
  · intro tallied
    refine ⟨fun other member lock refers => ?_, ?_, ?_, tallied.distinct, tallied.made⟩
    · rcases Multiset.mem_cons.1 member with rfl | inRest
      · rw [idle] at refers
        cases refers
      · exact tallied.current other inRest lock refers
    · simpa only [noLock] using tallied.references
    · simpa only [noHold] using tallied.holders

theorem ne_made (tallied : Tallied shared calls) :
    ∀ call ∈ calls, call.stage.lock? ≠ some shared.made := by
  intro call member refers
  obtain ⟨has, same⟩ := tallied.current call member _ refers
  have older := tallied.made _ has
  omega

theorem clone (tallied : Tallied shared calls) (has : shared.Has request.volume) :
    Tallied (shared.clone request.volume)
      (⟨request, .waiting (shared.lockOf request.volume)⟩ ::ₘ calls) := by
  refine ⟨fun call member lock refers => ?_, fun volume there => ?_, fun volume there => ?_,
    tallied.distinct, tallied.made⟩
  · rcases Multiset.mem_cons.1 member with rfl | old
    · exact ⟨has, Option.some.inj refers⟩
    · exact tallied.current call old lock refers
  · have counted := tallied.references volume there
    show Function.update shared.references _ _ (shared.lockOf volume) = _
    by_cases same : shared.lockOf request.volume = shared.lockOf volume
    · rw [tally_cons_self (congrArg some same), same, Function.update_self]
      exact congrArg (· + 1) counted
    · rw [tally_cons_other (fun refers => same (Option.some.inj refers)),
        Function.update_of_ne (Ne.symm same)]
      exact counted
  · rw [holders_cons_waiting]
    exact tallied.holders volume there

theorem make (tallied : Tallied shared calls) (lacks : ¬shared.Has request.volume) :
    Tallied (shared.make request.volume) (⟨request, .waiting shared.made⟩ ::ₘ calls) := by
  have newLock : (shared.make request.volume).lockOf request.volume = shared.made :=
    Function.update_self ..
  have oldLock : ∀ {volume}, shared.Has volume →
      (shared.make request.volume).lockOf volume = shared.lockOf volume ∧
        shared.lockOf volume ≠ shared.made := by
    intro volume has
    have other : volume ≠ request.volume := fun same => lacks (same ▸ has)
    exact ⟨Function.update_of_ne other _ _, (tallied.made volume has).ne⟩
  have unreferred := tallied.ne_made
  refine ⟨fun call member lock refers => ?_, fun volume there => ?_, fun volume there => ?_,
    fun first second there too same => ?_, fun volume there => ?_⟩
  · rcases Multiset.mem_cons.1 member with rfl | old
    · exact ⟨Shared.has_make_iff.2 (Or.inl rfl), newLock.trans (Option.some.inj refers)⟩
    · obtain ⟨has, refersTo⟩ := tallied.current call old lock refers
      exact ⟨Shared.has_make_iff.2 (Or.inr has), (oldLock has).1.trans refersTo⟩
  · rcases Shared.has_make_iff.1 there with rfl | has
    · rw [newLock, tally_cons_self rfl, tally_eq_zero_iff.2 unreferred]
      exact Function.update_self ..
    · obtain ⟨kept, older⟩ := oldLock has
      rw [kept, tally_cons_other (fun refers => older (Option.some.inj refers).symm),
        ← tallied.references volume has]
      exact Function.update_of_ne older _ _
  · rw [holders_cons_waiting]
    rcases Shared.has_make_iff.1 there with rfl | has
    · have unheld : (shared.make request.volume).held shared.made = false :=
        Function.update_self ..
      rw [newLock, unheld, tally_eq_zero_iff.2 fun call member holds =>
        unreferred call member (Stage.lock?_of_holds? holds)]
      rfl
    · obtain ⟨kept, older⟩ := oldLock has
      have sameHeld : (shared.make request.volume).held (shared.lockOf volume) =
          shared.held (shared.lockOf volume) := Function.update_of_ne older _ _
      rw [kept, sameHeld]
      exact tallied.holders volume has
  · rcases Shared.has_make_iff.1 there with rfl | hasFirst
    · rcases Shared.has_make_iff.1 too with rfl | hasSecond
      · rfl
      · obtain ⟨kept, older⟩ := oldLock hasSecond
        exact absurd (kept.symm.trans (same.symm.trans newLock)) older
    · rcases Shared.has_make_iff.1 too with rfl | hasSecond
      · obtain ⟨kept, older⟩ := oldLock hasFirst
        exact absurd (kept.symm.trans (same.trans newLock)) older
      · rw [(oldLock hasFirst).1, (oldLock hasSecond).1] at same
        exact tallied.distinct first second hasFirst hasSecond same
  · show _ < shared.made + 1
    rcases Shared.has_make_iff.1 there with rfl | has
    · rw [newLock]
      exact Nat.lt_succ_self _
    · rw [(oldLock has).1]
      exact (tallied.made volume has).trans (Nat.lt_succ_self _)

/-- A call that fetches the lock refers to it, whether the lock was there or is made. -/
theorem fetch (tallied : Tallied shared calls) (request : Request) :
    Tallied (shared.fetch request.volume)
      (⟨request, .waiting ((shared.fetch request.volume).lockOf request.volume)⟩ ::ₘ calls) := by
  unfold Shared.fetch
  by_cases has : shared.Has request.volume
  · rw [if_pos has]
    exact tallied.clone has
  · have newLock : (shared.make request.volume).lockOf request.volume = shared.made :=
      Function.update_self ..
    rw [if_neg has, newLock]
    exact tallied.make has

/-- Of the locks in the table, the one that a call refers to is that of its volume. -/
theorem lockOf_eq_iff (tallied : Tallied shared calls) (member : call ∈ calls)
    (refers : call.stage.lock? = some lock) {volume : String} (has : shared.Has volume) :
    shared.lockOf volume = lock ↔ volume = call.volume := by
  obtain ⟨hasOwn, own⟩ := tallied.current call member lock refers
  constructor
  · exact fun same => tallied.distinct volume call.volume has hasOwn (same.trans own.symm)
  · rintro rfl
    exact own

/-- The lock that the only call waits for is free. -/
theorem free_of_waiting (tallied : Tallied shared (⟨request, .waiting lock⟩ ::ₘ 0)) :
    shared.held lock = false := by
  obtain ⟨has, same⟩ := tallied.current _ (Multiset.mem_cons_self _ _) lock rfl
  have counted := tallied.holders _ has
  rw [same, holders_cons_waiting, tally_eq_zero_iff.2 fun _ member =>
    absurd member (Multiset.notMem_zero _)] at counted
  by_contra taken
  rw [if_pos (Bool.not_eq_false _ ▸ taken)] at counted
  omega

/-- The call takes the lock that it waits for. -/
theorem take {work : Dialogue steps (Except Failure Reply)}
    (tallied : Tallied shared (⟨request, .waiting lock⟩ ::ₘ calls))
    (free : shared.held lock = false) :
    Tallied (shared.take lock) (⟨request, .inside lock work⟩ ::ₘ calls) := by
  refine ⟨fun call member other refers => ?_, fun volume there => ?_, fun volume there => ?_,
    tallied.distinct, tallied.made⟩
  · rcases Multiset.mem_cons.1 member with rfl | old
    · exact tallied.current _ (Multiset.mem_cons_self _ _) other refers
    · exact tallied.current call (Multiset.mem_cons_of_mem old) other refers
  · exact (tallied.references volume there).trans (congrArg (· + 1) (tally_cons_congr rfl))
  · have counted := tallied.holders volume there
    rw [holders_cons_waiting] at counted
    show tally Stage.holds? _ (shared.lockOf volume) =
      if Function.update shared.held lock true (shared.lockOf volume) = true then 1 else 0
    by_cases same : shared.lockOf volume = lock
    · rw [tally_cons_self (congrArg some same.symm), same, Function.update_self]
      rw [same, free] at counted
      exact congrArg (· + 1) counted
    · rw [tally_cons_other (fun holds => same (Option.some.inj holds).symm),
        Function.update_of_ne same]
      exact counted

/-- The call works on, and leaves the table of locks as it is. -/
theorem work {before after : Dialogue steps (Except Failure Reply)} {agent : Agent}
    (tallied : Tallied shared (⟨request, .inside lock before⟩ ::ₘ calls))
    (locks : agent.locks = shared.agent.locks) :
    Tallied { shared with agent } (⟨request, .inside lock after⟩ ::ₘ calls) := by
  have has : ∀ {volume}, Shared.Has { shared with agent } volume → shared.Has volume := by
    intro volume there
    unfold Shared.Has at there ⊢
    rwa [← locks]
  have hasStill : ∀ {volume}, shared.Has volume → Shared.Has { shared with agent } volume := by
    intro volume there
    unfold Shared.Has at there ⊢
    rwa [locks]
  refine ⟨fun call member other refers => ?_, fun volume there => ?_, fun volume there => ?_,
    fun first second there too => tallied.distinct first second (has there) (has too),
    fun volume there => tallied.made volume (has there)⟩
  · rcases Multiset.mem_cons.1 member with rfl | old
    · obtain ⟨own, same⟩ := tallied.current _ (Multiset.mem_cons_self _ _) other refers
      exact ⟨hasStill own, same⟩
    · obtain ⟨own, same⟩ := tallied.current call (Multiset.mem_cons_of_mem old) other refers
      exact ⟨hasStill own, same⟩
  · exact (tallied.references volume (has there)).trans (congrArg (· + 1) (tally_cons_congr rfl))
  · refine Eq.trans ?_ (tallied.holders volume (has there))
    exact tally_cons_congr rfl

/-- Nobody else holds the lock that a call holds. -/
theorem holders_eq_zero {work : Dialogue steps (Except Failure Reply)}
    (tallied : Tallied shared (⟨request, .inside lock work⟩ ::ₘ calls)) :
    tally Stage.holds? calls lock = 0 := by
  obtain ⟨has, same⟩ := tallied.current _ (Multiset.mem_cons_self _ _) lock rfl
  have counted := tallied.holders _ has
  rw [same, tally_cons_self rfl] at counted
  split at counted <;> omega

/-- The call gives its lock back and refers to it no more. -/
theorem drop {work : Dialogue steps (Except Failure Reply)}
    (tallied : Tallied shared (⟨request, .inside lock work⟩ ::ₘ calls)) :
    Tallied (shared.drop lock) calls := by
  refine ⟨fun call member => tallied.current call (Multiset.mem_cons_of_mem member),
    fun volume there => ?_, fun volume there => ?_, tallied.distinct, tallied.made⟩
  · have counted := tallied.references volume there
    show Function.update shared.references lock _ (shared.lockOf volume) =
      tally Stage.lock? calls (shared.lockOf volume) + 1
    by_cases same : shared.lockOf volume = lock
    · rw [same, tally_cons_self rfl] at counted
      rw [same, Function.update_self, counted]
      rfl
    · rw [tally_cons_other fun refers => same (Option.some.inj refers).symm] at counted
      rw [Function.update_of_ne same, counted]
  · have counted := tallied.holders volume there
    show tally Stage.holds? calls (shared.lockOf volume) =
      if Function.update shared.held lock false (shared.lockOf volume) = true then 1 else 0
    by_cases same : shared.lockOf volume = lock
    · rw [same, Function.update_self, tallied.holders_eq_zero]
      rfl
    · rw [tally_cons_other fun holds => same (Option.some.inj holds).symm] at counted
      rw [Function.update_of_ne same, counted]

/-- A lock to which only the table refers may be removed. -/
theorem sweep (tallied : Tallied shared calls) (volume : String) :
    Tallied (shared.sweep volume) calls := by
  unfold Shared.sweep
  by_cases swept : shared.Has volume ∧ shared.references (shared.lockOf volume) = 1
  · obtain ⟨has, once⟩ := swept
    rw [if_pos ⟨has, once⟩]
    have unreferred : tally Stage.lock? calls (shared.lockOf volume) = 0 := by
      have counted := tallied.references volume has
      omega
    refine ⟨fun call member lock refers => ?_, fun other there => ?_, fun other there => ?_,
      fun first second there too => ?_, fun other there => ?_⟩
    · obtain ⟨own, same⟩ := tallied.current call member lock refers
      refine ⟨Shared.has_remove_iff.2 ⟨fun itself => ?_, own⟩, same⟩
      rw [itself] at same
      exact tally_eq_zero_iff.1 unreferred call member (same ▸ refers)
    · obtain ⟨different, still⟩ := Shared.has_remove_iff.1 there
      have otherLock : shared.lockOf other ≠ shared.lockOf volume :=
        fun same => different (tallied.distinct other volume still has same)
      exact (Function.update_of_ne otherLock _ _).trans (tallied.references other still)
    · exact tallied.holders other (Shared.has_remove_iff.1 there).2
    · exact tallied.distinct first second (Shared.has_remove_iff.1 there).2
        (Shared.has_remove_iff.1 too).2
    · exact tallied.made other (Shared.has_remove_iff.1 there).2
  · rw [if_neg swept]
    exact tallied

/-- Two calls that work at the same time work on different volumes. -/
theorem volume_ne {work : Dialogue steps (Except Failure Reply)}
    (tallied : Tallied shared (⟨request, .inside lock work⟩ ::ₘ calls)) (member : call ∈ calls)
    {other : Nat} (holds : call.stage.holds? = some other) : call.volume ≠ request.volume := by
  intro same
  obtain ⟨-, own⟩ := tallied.current _ (Multiset.mem_cons_self _ _) lock rfl
  obtain ⟨-, others⟩ := tallied.current call (Multiset.mem_cons_of_mem member) other
    (Stage.lock?_of_holds? holds)
  have sameLock : other = lock := others.symm.trans ((congrArg shared.lockOf same).trans own)
  exact tally_eq_zero_iff.1 tallied.holders_eq_zero call member (sameLock ▸ holds)

/-- At most one call works on a volume. -/
theorem countP_inside_le_one (tallied : Tallied shared calls) (volume : String) :
    calls.countP (·.Inside volume) ≤ 1 := by
  by_cases has : shared.Has volume
  · have sameCalls : calls.countP (·.Inside volume) =
        tally Stage.holds? calls (shared.lockOf volume) := by
      refine Multiset.countP_congr rfl fun call member => propext ?_
      constructor
      · rintro ⟨rfl, inside⟩
        obtain ⟨lock, holds⟩ := Option.isSome_iff_exists.1 inside
        rw [(tallied.current call member lock (Stage.lock?_of_holds? holds)).2]
        exact holds
      · intro holds
        have refers := Stage.lock?_of_holds? holds
        have own := (tallied.lockOf_eq_iff member refers has).1 rfl
        exact ⟨own.symm, Option.isSome_iff_exists.2 ⟨_, holds⟩⟩
    rw [sameCalls, tallied.holders volume has]
    split <;> omega
  · have nobody : calls.countP (·.Inside volume) = 0 := by
      refine Multiset.countP_eq_zero.2 ?_
      rintro call member ⟨rfl, inside⟩
      obtain ⟨lock, holds⟩ := Option.isSome_iff_exists.1 inside
      exact has (tallied.current call member lock (Stage.lock?_of_holds? holds)).1
    omega

end Tallied

end NodeAgent
