/-
This file says what it means that an operation keeps to one volume: what it asks and what comes of
it depend only on that volume, not on what else there is. Two backends are alike for the volume
where they store the same under its name, have the same at its mount point, and fail at the same; a
listing of them may differ in the other volumes, but each lookup in it is for the one volume. Each
way of building operations keeps to a volume where its parts do.
-/

import NodeAgent.Proofs.Requests
import NodeAgent.Proofs.Restoring

namespace NodeAgent

/-! ### Questions -/

/-- Whether the answer to a question depends only on what is stored under a name and what is mounted
at a place, and whether it changes nothing else. -/
def Call.Concerns (name key : String) : Call → Prop
  | volume (.create _ other _) | volume (.extend _ other _) | volume (.remove _ other) =>
    other = name
  | volume (.queryMount device) | volume (.mount device _) | volume (.unmount device) =>
    Memory.VolumeStore.nameOf device = name
  | volume (.copyTree _ _) => True
  | volume (.isThin _) | volume (.list _) => False
  | repository (.findNearest _ _ _) | repository (.backup _ _ _ _) => True
  | repository (.mountSnapshot _ _ point) | repository (.unmountSnapshot _ point) =>
    point.canonical = key

/-- A question that concerns a volume, or a listing of all. -/
def Call.Minds (name key : String) (call : Call) : Prop :=
  call.Concerns name key ∨ ∃ pool, call = .volume (.list pool)

theorem Call.Minds.not_touches {name key other : String} {call : Call}
    (minds : call.Minds name key) (different : other ≠ name) : ¬call.Touches other := by
  rcases minds with concerns | ⟨pool, rfl⟩
  · match call, concerns with
    | .volume (.create _ _ _), same | .volume (.extend _ _ _), same | .volume (.remove _ _), same
    | .volume (.mount _ _), same | .volume (.unmount _), same =>
      exact fun touches => different (touches.symm.trans same)
    | .volume (.queryMount _), _ | .volume (.copyTree _ _), _ | .repository _, _ => exact id
  · exact id

theorem Call.Minds.not_touchesPoint {name key other : String} {call : Call}
    (minds : call.Minds name key) (different : other ≠ key) : ¬call.TouchesPoint other := by
  rcases minds with concerns | ⟨pool, rfl⟩
  · match call, concerns with
    | .repository (.mountSnapshot _ _ _), same | .repository (.unmountSnapshot _ _), same =>
      exact fun touches => different (touches.symm.trans same)
    | .volume _, _ | .repository (.findNearest _ _ _), _ | .repository (.backup _ _ _ _), _ =>
      exact id
  · exact id

namespace Memory

variable {name key : String}

/-! ### Backends that are alike -/

/-- Stores that have the same under a name and fail at the same operations. -/
structure VolumeStore.Alike (name : String) (first second : VolumeStore) : Prop where
  stored : first.volumes.get? name = second.volumes.get? name
  group : first.group = second.group
  failing : first.failing = second.failing

namespace VolumeStore.Alike

variable {first second third : VolumeStore}

theorem symm (alike : Alike name first second) : Alike name second first :=
  ⟨alike.stored.symm, alike.group.symm, alike.failing.symm⟩

theorem trans (alike : Alike name first second) (further : Alike name second third) :
    Alike name first third :=
  ⟨alike.stored.trans further.stored, alike.group.trans further.group,
    alike.failing.trans further.failing⟩

theorem insert (alike : Alike name first second) (value : StoredVolume) :
    Alike name { first with volumes := first.volumes.insert name value }
      { second with volumes := second.volumes.insert name value } where
  stored := by simp
  group := alike.group
  failing := alike.failing

theorem erase (alike : Alike name first second) :
    Alike name { first with volumes := first.volumes.erase name }
      { second with volumes := second.volumes.erase name } where
  stored := by simp
  group := alike.group
  failing := alike.failing

theorem record (alike : Alike name first second) (call : VolumeCall) :
    Alike name { first with calls := first.calls ++ [call] }
      { second with calls := second.calls ++ [call] } :=
  ⟨alike.stored, alike.group, alike.failing⟩

theorem perform (alike : Alike name first second) {call : VolumeCall}
    (concerns : Call.Concerns name key (.volume call)) :
    (first.perform call).1 = (second.perform call).1 ∧
      Alike name (first.perform call).2 (second.perform call).2 := by
  have stored := alike.stored
  cases call with
  | isThin | list => exact absurd concerns id
  | copyTree => exact ⟨rfl, alike⟩
  | queryMount device =>
    obtain rfl : nameOf device = name := concerns
    refine ⟨?_, alike⟩
    show Except.ok (first.targetOf (nameOf device)) = .ok (second.targetOf (nameOf device))
    unfold targetOf
    rw [stored]
  | create pool created size =>
    obtain rfl : created = name := concerns
    show (first.create created size).1 = (second.create created size).1 ∧
      Alike created (first.create created size).2 (second.create created size).2
    unfold create Table.contains
    rw [stored]
    by_cases there : (second.volumes.get? created).isSome = true
    · rw [if_pos there, if_pos there]
      exact ⟨rfl, alike⟩
    · rw [if_neg there, if_neg there]
      dsimp only
      by_cases fails : VolumeOp.format ∈ second.failing
      · rw [if_pos fails, if_pos (alike.failing ▸ fails)]
        exact ⟨rfl, alike.insert _⟩
      · rw [if_neg fails, if_neg (alike.failing ▸ fails)]
        exact ⟨rfl, alike.insert _⟩
  | extend pool changed size =>
    obtain rfl : changed = name := concerns
    show (first.extend changed size).1 = (second.extend changed size).1 ∧
      Alike changed (first.extend changed size).2 (second.extend changed size).2
    unfold extend
    rw [stored]
    cases second.volumes.get? changed with
    | none => exact ⟨rfl, alike⟩
    | some held => exact ⟨rfl, alike.insert _⟩
  | remove pool removed =>
    obtain rfl : removed = name := concerns
    show (first.remove removed).1 = (second.remove removed).1 ∧
      Alike removed (first.remove removed).2 (second.remove removed).2
    unfold remove Table.contains
    rw [stored]
    by_cases there : (second.volumes.get? removed).isSome = true
    · rw [if_pos there, if_pos there]
      exact ⟨rfl, alike.erase⟩
    · rw [if_neg there, if_neg there]
      exact ⟨rfl, alike⟩
  | mount device target =>
    obtain rfl : nameOf device = name := concerns
    show (first.mount device target).1 = (second.mount device target).1 ∧
      Alike (nameOf device) (first.mount device target).2 (second.mount device target).2
    unfold mount
    rw [stored]
    cases second.volumes.get? (nameOf device) with
    | none => exact ⟨rfl, alike⟩
    | some held =>
      dsimp only
      by_cases taken : held.target.isSome = true
      · rw [if_pos taken, if_pos taken]
        exact ⟨rfl, alike⟩
      · rw [if_neg taken, if_neg taken]
        exact ⟨rfl, alike.insert _⟩
  | unmount device =>
    obtain rfl : nameOf device = name := concerns
    show (first.unmount device).1 = (second.unmount device).1 ∧
      Alike (nameOf device) (first.unmount device).2 (second.unmount device).2
    unfold unmount
    rw [stored]
    match second.volumes.get? (nameOf device) with
    | none | some ⟨_, none⟩ => exact ⟨rfl, alike⟩
    | some ⟨_, some _⟩ => exact ⟨rfl, alike.insert _⟩

theorem answer (alike : Alike name first second) {call : VolumeCall}
    (concerns : Call.Concerns name key (.volume call)) :
    (first.answer call).1 = (second.answer call).1 ∧
      Alike name (first.answer call).2 (second.answer call).2 := by
  unfold VolumeStore.answer
  cases VolumeOp.ofCall? call with
  | none => exact alike.perform concerns
  | some op =>
    dsimp only
    by_cases fails : op ∈ second.failing
    · rw [if_pos fails, if_pos (alike.failing ▸ fails)]
      exact ⟨rfl, alike.record call⟩
    · rw [if_neg fails, if_neg (alike.failing ▸ fails)]
      exact (alike.record call).perform concerns

end VolumeStore.Alike

/-- Repositories with the same snapshots and the same mount at a place, that fail at the same. -/
structure RepositoryStore.Alike (key : String) (first second : RepositoryStore) : Prop where
  mounted : first.mounts.get? key = second.mounts.get? key
  snapshots : first.snapshots = second.snapshots
  failing : first.failing = second.failing

namespace RepositoryStore.Alike

variable {first second third : RepositoryStore}

theorem symm (alike : Alike key first second) : Alike key second first :=
  ⟨alike.mounted.symm, alike.snapshots.symm, alike.failing.symm⟩

theorem trans (alike : Alike key first second) (further : Alike key second third) :
    Alike key first third :=
  ⟨alike.mounted.trans further.mounted, alike.snapshots.trans further.snapshots,
    alike.failing.trans further.failing⟩

theorem insert (alike : Alike key first second) (value : Path × String) :
    Alike key { first with mounts := first.mounts.insert key value }
      { second with mounts := second.mounts.insert key value } where
  mounted := by simp
  snapshots := alike.snapshots
  failing := alike.failing

theorem erase (alike : Alike key first second) :
    Alike key { first with mounts := first.mounts.erase key }
      { second with mounts := second.mounts.erase key } where
  mounted := by simp
  snapshots := alike.snapshots
  failing := alike.failing

theorem unlessTold {Result : Type} (alike : Alike key first second) (repository : String)
    (op : RepositoryOp) (outcome other : Except Failure Result × RepositoryStore)
    (same : outcome.1 = other.1) (after : Alike key outcome.2 other.2) :
    (first.unlessTold repository op outcome).1 = (second.unlessTold repository op other).1 ∧
      Alike key (first.unlessTold repository op outcome).2
        (second.unlessTold repository op other).2 := by
  unfold RepositoryStore.unlessTold
  by_cases fails : (repository, op) ∈ second.failing
  · rw [if_pos fails, if_pos (alike.failing ▸ fails)]
    exact ⟨rfl, alike⟩
  · rw [if_neg fails, if_neg (alike.failing ▸ fails)]
    exact ⟨same, after⟩

theorem mount (alike : Alike key first second) (repository : String) (snapshot : Snapshot)
    {point : Path} (there : point.canonical = key) :
    (first.mount repository snapshot point).1 = (second.mount repository snapshot point).1 ∧
      Alike key (first.mount repository snapshot point).2
        (second.mount repository snapshot point).2 := by
  subst there
  unfold RepositoryStore.mount Table.contains
  rw [alike.mounted]
  by_cases busy : (second.mounts.get? point.canonical).isSome = true
  · rw [if_pos busy, if_pos busy]
    exact ⟨rfl, alike⟩
  · rw [if_neg busy, if_neg busy]
    exact ⟨rfl, alike.insert _⟩

theorem unmount (alike : Alike key first second) {point : Path}
    (there : point.canonical = key) :
    (first.unmount point).1 = (second.unmount point).1 ∧
      Alike key (first.unmount point).2 (second.unmount point).2 := by
  subst there
  unfold RepositoryStore.unmount Table.contains
  rw [alike.mounted]
  by_cases busy : (second.mounts.get? point.canonical).isSome = true
  · rw [if_pos busy, if_pos busy]
    exact ⟨rfl, alike.erase⟩
  · rw [if_neg busy, if_neg busy]
    exact ⟨rfl, alike⟩

theorem answer (alike : Alike key first second) {call : RepositoryCall}
    (concerns : Call.Concerns name key (.repository call)) :
    (first.answer call).1 = (second.answer call).1 ∧
      Alike key (first.answer call).2 (second.answer call).2 := by
  have recorded : Alike key { first with calls := first.calls ++ [call] }
      { second with calls := second.calls ++ [call] } :=
    ⟨alike.mounted, alike.snapshots, alike.failing⟩
  unfold RepositoryStore.answer
  cases call with
  | findNearest destination volume time =>
    refine recorded.unlessTold destination.repository .find (.ok _, _) (.ok _, _) ?_ recorded
    show Except.ok (first.nearest destination.repository time) =
      .ok (second.nearest destination.repository time)
    unfold nearest
    rw [alike.snapshots]
  | mountSnapshot destination snapshot point =>
    obtain ⟨same, after⟩ := recorded.mount destination.repository snapshot concerns
    exact recorded.unlessTold destination.repository .mount _ _ same after
  | unmountSnapshot destination point =>
    obtain ⟨same, after⟩ := recorded.unmount concerns
    exact recorded.unlessTold destination.repository .unmount _ _ same after
  | backup destination volume source time =>
    have backed :=
      recorded.unlessTold destination.repository .backup (.ok (), _) (.ok (), _)
        (Eq.refl (Except.ok ())) recorded
    exact ⟨congrArg BackupEnd.finished backed.1, backed.2⟩

end RepositoryStore.Alike

/-- Backends that are alike for what is stored under a name and what is mounted at a place. -/
structure Backends.Alike (name key : String) (first second : Backends) : Prop where
  volumes : first.volumes.Alike name second.volumes
  repositories : first.repositories.Alike key second.repositories

namespace Backends.Alike

variable {first second : Backends}

/-- Backends that are alike answer questions that concern them alike, and are alike again. -/
theorem answer (alike : Alike name key first second) {call : Call}
    (concerns : call.Concerns name key) :
    (Backends.answer call first).1 = (Backends.answer call second).1 ∧
      Alike name key (Backends.answer call first).2 (Backends.answer call second).2 := by
  cases call with
  | volume call =>
    obtain ⟨same, after⟩ := alike.volumes.answer concerns
    exact ⟨same, after, alike.repositories⟩
  | repository call =>
    obtain ⟨same, after⟩ := alike.repositories.answer concerns
    exact ⟨same, alike.volumes, after⟩

theorem snd_answer_list (store : VolumeStore) (pool : ThinPool) :
    (store.answer (.list pool)).2 = { store with calls := store.calls ++ [.list pool] } := by
  unfold VolumeStore.answer
  dsimp only [VolumeOp.ofCall?]
  split <;> rfl

/-- A listing fails in both of two backends or in none; where it comes, it shows the same under the
name. -/
theorem list {pool : ThinPool} {answer : Except Failure (List Volume)} {last : Backends}
    (alike : Alike name key first second)
    (answered : Answered first [.ofVolume (.list pool) answer] last) :
    ∃ again after, Answered second [.ofVolume (.list pool) again] after ∧
      Alike name key last after ∧
      ((∃ failure, answer = .error failure ∧ again = .error failure) ∨
        ∃ volumes listed, answer = .ok volumes ∧ again = .ok listed ∧
          (Pool.rosterOf volumes).get? name = (Pool.rosterOf listed).get? name) := by
  generalize given : second.volumes.answer (.list pool) = all
  obtain ⟨again, volumes⟩ := all
  have asked : Answered second [.ofVolume (.list pool) again] { second with volumes } := by
    have answers : Backends.answer (.volume (.list pool)) second =
        (again, { second with volumes }) := by
      show ((second.volumes.answer (.list pool)).1,
        { second with volumes := (second.volumes.answer (.list pool)).2 }) = _
      rw [given]
    have one := Answered.cons (.volume (.list pool))
      (.nil (Backends.answer (.volume (.list pool)) second).2)
    rw [answers] at one
    exact one
  refine ⟨again, _, asked, ?_, ?_⟩
  · cases answered with
    | cons _ rest =>
      cases rest
      refine ⟨?_, alike.repositories⟩
      have after : volumes = (second.volumes.answer (.list pool)).2 := by rw [given]
      show (first.volumes.answer (.list pool)).2.Alike name volumes
      rw [after, snd_answer_list, snd_answer_list]
      exact alike.volumes.record _
  · have same : first.Fails .list ↔ second.Fails .list := by
      unfold Backends.Fails
      rw [alike.volumes.failing]
    cases answer with
    | error failure =>
      have fails := answered.list_error
      have refused := answered.eq_answer
      rw [VolumeStore.answer_of_failing rfl fails] at refused
      rw [VolumeStore.answer_of_failing rfl (same.1 fails)] at given
      have told := (Prod.mk.inj refused).1
      have again := (Prod.mk.inj given).1
      exact Or.inl ⟨_, told.symm, again.symm⟩
    | ok listing =>
      obtain ⟨works, shown⟩ := answered.list_ok
      cases again with
      | error failure => exact absurd (same.2 asked.list_error) works
      | ok listed =>
        refine Or.inr ⟨listing, listed, rfl, rfl, ?_⟩
        have stored : first.stored name = second.stored name := alike.volumes.stored
        have sameListed : first.volumes.listed name = second.volumes.listed name := by
          funext held
          unfold VolumeStore.listed
          rw [alike.volumes.group]
        rw [shown, asked.list_ok.2, stored, sameListed]

/-- Where all questions concern them, backends that are alike have the same conversation. -/
theorem twin {exchanges : List (Exchange backends)} {last : Backends}
    (alike : Alike name key first second) (answered : Answered first exchanges last)
    (concern : ∀ exchange ∈ exchanges, Call.Concerns name key exchange.question) :
    ∃ after, Answered second exchanges after ∧ Alike name key last after := by
  induction answered generalizing second with
  | nil => exact ⟨second, .nil second, alike⟩
  | @cons world last rest call answered inductionHypothesis =>
    obtain ⟨same, next⟩ := alike.answer (concern _ List.mem_cons_self)
    obtain ⟨after, again, final⟩ := inductionHypothesis next fun exchange member =>
      concern exchange (List.mem_cons_of_mem _ member)
    refine ⟨after, ?_, final⟩
    rw [same]
    exact .cons call again

end Backends.Alike

end Memory

namespace Operation

open Memory

/-! ### Operations -/

section Combinators

variable {State Result Later : Type} {name key : String} {related : State → State → Prop}

/-- A conversation has a twin from another state and in front of other backends: one with the same
questions and the same outcome, after which the states and the backends are alike again. -/
def Twin (name key : String) (related : State → State → Prop) (operation : Operation State Result)
    (exchanges : List (Exchange backends)) (outcome : Except Failure Result) (after : State)
    (last : Backends) (before : State) (world : Backends) : Prop :=
  ∃ again otherAfter otherLast, Converses operation before again outcome otherAfter ∧
    Answered world again otherLast ∧ callsOf again = callsOf exchanges ∧
    related after otherAfter ∧ last.Alike name key otherLast

/-- The operation keeps to what is stored under a name and mounted at a place: it asks about nothing
else, and in front of backends that are alike it asks the same and comes to the same. -/
def KeepsTo (name key : String) (related : State → State → Prop)
    (operation : Operation State Result) : Prop :=
  ∀ ⦃before exchanges outcome after world last⦄,
    Converses operation before exchanges outcome after → Answered world exchanges last →
    (∀ exchange ∈ exchanges, Call.Minds name key exchange.question) ∧
    ∀ ⦃otherBefore otherWorld⦄, related before otherBefore → world.Alike name key otherWorld →
      Twin name key related operation exchanges outcome after last otherBefore otherWorld

/-- An operation whose questions all concern the volume, and which goes alike from states that are
alike, keeps to the volume. -/
theorem keepsTo_of_same {operation : Operation State Result}
    (same : ∀ {before exchanges outcome after},
      Converses operation before exchanges outcome after →
      (∀ exchange ∈ exchanges, Call.Concerns name key exchange.question) ∧
      ∀ other, related before other →
        ∃ otherAfter, Converses operation other exchanges outcome otherAfter ∧
          related after otherAfter) :
    KeepsTo name key related operation := by
  intro before exchanges outcome after world last conversation answered
  obtain ⟨concern, again⟩ := same conversation
  refine ⟨fun exchange member => Or.inl (concern exchange member), ?_⟩
  intro otherBefore otherWorld similar alike
  obtain ⟨otherAfter, held, final⟩ := again otherBefore similar
  obtain ⟨otherLast, answers, alikeLast⟩ := alike.twin answered concern
  exact ⟨exchanges, otherAfter, otherLast, held, answers, rfl, final, alikeLast⟩

theorem keepsTo_fromResult (result : Except Failure Result) :
    KeepsTo name key related (fromResult result : Operation State Result) := by
  refine keepsTo_of_same fun conversation => ?_
  obtain ⟨rfl, rfl, rfl⟩ := converses_fromResult_iff.1 conversation
  refine ⟨List.forall_mem_nil _, fun other similar => ⟨other, ?_, similar⟩⟩
  exact converses_fromResult_iff.2 ⟨rfl, rfl, rfl⟩

theorem keepsTo_pure (result : Result) :
    KeepsTo name key related (pure result : Operation State Result) :=
  keepsTo_fromResult (.ok result)

theorem keepsTo_throw (failure : Failure) :
    KeepsTo name key related (throw failure : Operation State Result) :=
  keepsTo_fromResult (.error failure)

theorem keepsTo_modify {change : State → State}
    (keeps : ∀ first second, related first second → related (change first) (change second)) :
    KeepsTo name key related (modify change : Operation State PUnit) := by
  refine keepsTo_of_same fun conversation => ?_
  obtain ⟨rfl, rfl, rfl⟩ := converses_modify_iff.1 conversation
  refine ⟨List.forall_mem_nil _, fun other similar => ⟨change other, ?_, keeps _ _ similar⟩⟩
  exact converses_modify_iff.2 ⟨rfl, rfl, rfl⟩

theorem keepsTo_askVolume {call : VolumeCall} (concerns : Call.Concerns name key (.volume call)) :
    KeepsTo name key related (askVolume call : Operation State call.Result) := by
  refine keepsTo_of_same fun conversation => ?_
  obtain ⟨rfl, rfl⟩ := converses_askVolume_iff.1 conversation
  refine ⟨List.forall_mem_singleton.2 concerns, fun other similar => ⟨other, ?_, similar⟩⟩
  exact converses_askVolume_iff.2 ⟨rfl, rfl⟩

theorem keepsTo_askRepository {call : RepositoryCall}
    (concerns : Call.Concerns name key (.repository call)) :
    KeepsTo name key related (askRepository call : Operation State call.Answer) := by
  refine keepsTo_of_same fun conversation => ?_
  obtain ⟨given, rfl, rfl, rfl⟩ := converses_askRepository_iff.1 conversation
  refine ⟨List.forall_mem_singleton.2 concerns, fun other similar => ⟨other, ?_, similar⟩⟩
  exact converses_askRepository_iff.2 ⟨given, rfl, rfl, rfl⟩

theorem keepsTo_ofDialogue {dialogue : Dialogue backends Result}
    (concern : ∀ {exchanges result}, Dialogue.Held dialogue exchanges result →
      ∀ exchange ∈ exchanges, Call.Concerns name key exchange.question) :
    KeepsTo name key related (ofDialogue dialogue : Operation State Result) := by
  refine keepsTo_of_same fun conversation => ?_
  obtain ⟨result, rfl, held, rfl⟩ := converses_ofDialogue_iff.1 conversation
  refine ⟨concern held, fun other similar => ⟨other, ?_, similar⟩⟩
  exact converses_ofDialogue_iff.2 ⟨result, rfl, held, rfl⟩

/-- The rest of an operation counts only with the results that the first part can have. -/
theorem keepsTo_bind_of_result {operation : Operation State Result}
    {next : Result → Operation State Later} (first : KeepsTo name key related operation)
    (second : ∀ before exchanges result after,
      Converses operation before exchanges (.ok result) after →
      KeepsTo name key related (next result)) :
    KeepsTo name key related (operation >>= next) := by
  intro before exchanges outcome after world last conversation answered
  rcases converses_bind_iff.1 conversation with
    ⟨early, late, result, middle, rfl, held, rest⟩ | ⟨failure, rfl, held⟩
  · obtain ⟨between, begun, ended⟩ := Answered.append_iff.1 answered
    obtain ⟨minds, twin⟩ := first held begun
    obtain ⟨mindsLate, twinLate⟩ := second _ _ _ _ held rest ended
    refine ⟨fun exchange member => ?_, fun otherBefore otherWorld similar alike => ?_⟩
    · rcases List.mem_append.1 member with inEarly | inLate
      · exact minds exchange inEarly
      · exact mindsLate exchange inLate
    · obtain ⟨again, otherMiddle, otherBetween, heldAgain, answers, sameCalls, similarMiddle,
        alikeMiddle⟩ := twin similar alike
      obtain ⟨againLate, otherAfter, otherLast, restAgain, answersLate, sameLate, similarAfter,
        alikeLast⟩ := twinLate similarMiddle alikeMiddle
      refine ⟨again ++ againLate, otherAfter, otherLast, ?_, ?_, ?_, similarAfter, alikeLast⟩
      · exact converses_bind_iff.2
          (Or.inl ⟨again, againLate, result, otherMiddle, rfl, heldAgain, restAgain⟩)
      · exact Answered.append_iff.2 ⟨otherBetween, answers, answersLate⟩
      · rw [callsOf_append, callsOf_append, sameCalls, sameLate]
  · obtain ⟨minds, twin⟩ := first held answered
    refine ⟨minds, fun otherBefore otherWorld similar alike => ?_⟩
    obtain ⟨again, otherAfter, otherLast, heldAgain, rest⟩ := twin similar alike
    exact ⟨again, otherAfter, otherLast,
      converses_bind_iff.2 (Or.inr ⟨failure, rfl, heldAgain⟩), rest⟩

theorem keepsTo_bind {operation : Operation State Result}
    {next : Result → Operation State Later} (first : KeepsTo name key related operation)
    (second : ∀ result, KeepsTo name key related (next result)) :
    KeepsTo name key related (operation >>= next) :=
  keepsTo_bind_of_result first fun _ _ result _ _ => second result

theorem keepsTo_get_bind {next : State → Operation State Later}
    (same : ∀ first second, related first second → next first = next second)
    (keeps : ∀ state, KeepsTo name key related (next state)) :
    KeepsTo name key related (get >>= next) := by
  intro before exchanges outcome after world last conversation answered
  obtain ⟨minds, twin⟩ := keeps before (converses_get_bind_iff.1 conversation) answered
  refine ⟨minds, fun otherBefore otherWorld similar alike => ?_⟩
  obtain ⟨again, otherAfter, otherLast, heldAgain, rest⟩ := twin similar alike
  rw [same before otherBefore similar] at heldAgain
  exact ⟨again, otherAfter, otherLast, converses_get_bind_iff.2 heldAgain, rest⟩

theorem keepsTo_attempt {operation : Operation State Result}
    (keeps : KeepsTo name key related operation) :
    KeepsTo name key related (attempt operation) := by
  intro before exchanges seen after world last conversation answered
  obtain ⟨outcome, rfl, held⟩ := converses_attempt_iff.1 conversation
  obtain ⟨minds, twin⟩ := keeps held answered
  refine ⟨minds, fun otherBefore otherWorld similar alike => ?_⟩
  obtain ⟨again, otherAfter, otherLast, heldAgain, rest⟩ := twin similar alike
  exact ⟨again, otherAfter, otherLast, converses_attempt_iff.2 ⟨outcome, rfl, heldAgain⟩, rest⟩

end Combinators

end Operation

/-! ### The pool -/

namespace Pool

open Operation Memory

variable {pool : ThinPool} {name key : String} {target : Path} {least : Size}

/-- An operation on the pool keeps to a volume whatever the rosters are: it lists before it reads
the roster. -/
abbrev KeepsTo {Result : Type} (name key : String) (operation : Operation Roster Result) : Prop :=
  Operation.KeepsTo name key (fun _ _ => True) operation

/-- An operation that lists once, keeps the listing, and results in what a view makes of the entry
under the name. -/
def Lists {Result : Type} (pool : ThinPool) (name : String)
    (view : Except Failure (Option Volume) → Except Failure Result)
    (operation : Operation Roster Result) : Prop :=
  ∀ {before exchanges outcome after}, Converses operation before exchanges outcome after ↔
    ∃ answer : Except Failure (List Volume), exchanges = [.ofVolume (.list pool) answer] ∧
      outcome = view (answer.map fun volumes => (rosterOf volumes).get? name) ∧
      after = (answer.toOption.map rosterOf).getD before

theorem lists_refresh (name : String) :
    Lists pool name (fun seen => seen.map fun _ => ()) (refresh pool) := by
  intro before exchanges outcome after
  constructor
  · intro conversation
    cases refreshes_of_converses conversation with
    | listed volumes => exact ⟨.ok volumes, rfl, rfl, rfl⟩
    | unlisted failure => exact ⟨.error failure, rfl, rfl, rfl⟩
  · rintro ⟨answer, rfl, rfl, rfl⟩
    cases answer with
    | error failure => exact converses_refresh_iff.2 (.unlisted failure)
    | ok volumes => exact converses_refresh_iff.2 (.listed volumes)

theorem lists_find : Lists pool name id (find pool name) := by
  intro before exchanges outcome after
  constructor
  · intro conversation
    cases finds_of_converses conversation with
    | listed volumes => exact ⟨.ok volumes, rfl, rfl, rfl⟩
    | unlisted failure => exact ⟨.error failure, rfl, rfl, rfl⟩
  · rintro ⟨answer, rfl, rfl, rfl⟩
    have refreshed : Converses (refresh pool) before [.ofVolume (.list pool) answer]
        ((answer.map fun volumes => (rosterOf volumes).get? name).map fun _ => ())
        ((answer.toOption.map rosterOf).getD before) :=
      (lists_refresh name).2 ⟨answer, rfl, rfl, rfl⟩
    cases answer with
    | error failure => exact converses_bind_iff.2 (Or.inr ⟨failure, rfl, refreshed⟩)
    | ok volumes =>
      exact converses_bind_iff.2 (Or.inl ⟨_, [], (), rosterOf volumes, rfl, refreshed, .done _⟩)

/-- The entry under the name is the same in both listings, so what a view makes of it is. -/
theorem keepsTo_of_lists {Result : Type}
    {view : Except Failure (Option Volume) → Except Failure Result}
    {operation : Operation Roster Result} (lists : Lists pool name view operation) :
    KeepsTo name key operation := by
  intro before exchanges outcome after world last conversation answered
  obtain ⟨answer, rfl, rfl, rfl⟩ := lists.1 conversation
  refine ⟨List.forall_mem_singleton.2 (Or.inr ⟨pool, rfl⟩), ?_⟩
  intro otherBefore otherWorld _ alike
  obtain ⟨again, otherLast, answers, alikeLast, seen⟩ := alike.list answered
  have same : (answer.map fun volumes => (rosterOf volumes).get? name) =
      again.map fun volumes => (rosterOf volumes).get? name := by
    rcases seen with ⟨failure, rfl, rfl⟩ | ⟨volumes, listed, rfl, rfl, entry⟩
    · rfl
    · exact congrArg Except.ok entry
  rw [same]
  exact ⟨_, _, otherLast, lists.2 ⟨again, rfl, rfl, rfl⟩, answers, rfl, trivial, alikeLast⟩

theorem keepsTo_refresh (name : String) : KeepsTo name key (refresh pool) :=
  keepsTo_of_lists (lists_refresh name)

theorem keepsTo_find : KeepsTo name key (find pool name) :=
  keepsTo_of_lists lists_find

theorem keepsTo_require : KeepsTo name key (require pool name) := by
  refine keepsTo_bind keepsTo_find fun found => ?_
  cases found with
  | some volume => exact keepsTo_pure volume
  | none => exact keepsTo_throw _

theorem keepsTo_discardPartial : KeepsTo name key (discardPartial pool name) := by
  refine keepsTo_bind (keepsTo_attempt keepsTo_find) fun seen => ?_
  match seen with
  | .ok (some left) =>
    refine keepsTo_bind (keepsTo_attempt (keepsTo_askVolume rfl)) fun _ => ?_
    exact keepsTo_bind (keepsTo_attempt (keepsTo_refresh name)) fun _ => keepsTo_pure _
  | .ok none => exact keepsTo_pure _
  | .error failure => exact keepsTo_pure _

theorem keepsTo_ensurePresent : KeepsTo name key (ensurePresent pool name least) := by
  unfold ensurePresent
  by_cases nonpositive : least.bytes ≤ 0
  · rw [if_pos nonpositive]
    exact keepsTo_throw _
  rw [if_neg nonpositive]
  refine keepsTo_bind keepsTo_find fun found => ?_
  cases found with
  | none =>
    refine keepsTo_bind (keepsTo_attempt (keepsTo_askVolume rfl)) fun creation => ?_
    cases creation with
    | ok _ => exact keepsTo_bind keepsTo_require fun _ => keepsTo_pure _
    | error failure => exact keepsTo_bind keepsTo_discardPartial fun _ => keepsTo_throw _
  | some existing =>
    dsimp only
    by_cases smaller : existing.size.bytes < least.bytes
    · rw [if_pos smaller]
      refine keepsTo_bind (keepsTo_askVolume rfl) fun _ => ?_
      exact keepsTo_bind keepsTo_require fun _ => keepsTo_pure _
    · rw [if_neg smaller]
      exact keepsTo_pure _

theorem keepsTo_record {volume : Volume} {found : Option Path} :
    KeepsTo name key (record name volume found) :=
  keepsTo_bind (keepsTo_modify fun _ _ _ => trivial) fun _ => keepsTo_pure _

/-- The device of a volume that was looked up is its own, where its name is a valid id. -/
theorem nameOf_of_require (valid : checkVolumeId name = .ok ()) {before after : Roster}
    {exchanges : List (Exchange backends)} {volume : Volume}
    (required : Converses (require pool name) before exchanges (.ok volume) after) :
    VolumeStore.nameOf volume.device = name := by
  obtain ⟨group, device⟩ := device_of_name (name_of_require required)
  rw [device, nameOf_devicePath valid]

theorem keepsTo_ensureMounted (valid : checkVolumeId name = .ok ()) :
    KeepsTo name key (ensureMounted pool name target) := by
  refine keepsTo_bind_of_result keepsTo_require fun _ _ volume _ required => ?_
  have named := nameOf_of_require valid required
  refine keepsTo_bind (keepsTo_askVolume named) fun current => ?_
  cases current with
  | some place =>
    dsimp only
    by_cases same : place.same target = true
    · rw [if_pos same]
      exact keepsTo_record
    · rw [if_neg same]
      exact keepsTo_throw _
  | none => exact keepsTo_bind (keepsTo_askVolume named) fun _ => keepsTo_require

theorem keepsTo_ensureUnmounted (valid : checkVolumeId name = .ok ()) :
    KeepsTo name key (ensureUnmounted pool name) := by
  refine keepsTo_bind_of_result keepsTo_require fun _ _ volume _ required => ?_
  have named := nameOf_of_require valid required
  refine keepsTo_bind (keepsTo_askVolume named) fun current => ?_
  cases current with
  | none => exact keepsTo_record
  | some place => exact keepsTo_bind (keepsTo_askVolume named) fun _ => keepsTo_require

end Pool

/-- A restore keeps to the volume and to the place where the snapshot is mounted. -/
theorem Restore.keepsTo_restore {pool : ThinPool} {name key : String}
    (valid : checkVolumeId name = .ok ()) (source : Source) (volumePoint : Path)
    {snapshotPoint : Path} (there : snapshotPoint.canonical = key) :
    Pool.KeepsTo name key (restore pool name source volumePoint snapshotPoint) := by
  refine Operation.keepsTo_bind (Pool.keepsTo_ensureMounted valid) fun _ => ?_
  refine Operation.keepsTo_bind (Operation.keepsTo_askRepository there) fun mounted => ?_
  have unmounts : Pool.KeepsTo name key (Operation.attempt (Pool.ensureUnmounted pool name)) :=
    Operation.keepsTo_attempt (Pool.keepsTo_ensureUnmounted valid)
  match mounted with
  | .error failure =>
    exact Operation.keepsTo_bind unmounts fun _ => Operation.keepsTo_throw failure
  | .ok content =>
    refine Operation.keepsTo_bind
      (Operation.keepsTo_attempt (Operation.keepsTo_askVolume trivial)) fun copied => ?_
    refine Operation.keepsTo_bind (Operation.keepsTo_askRepository there) fun released => ?_
    refine Operation.keepsTo_bind unmounts fun freed => ?_
    refine Operation.keepsTo_bind (Operation.keepsTo_fromResult copied) fun _ => ?_
    refine Operation.keepsTo_bind (Operation.keepsTo_fromResult released) fun _ => ?_
    exact Operation.keepsTo_bind (Operation.keepsTo_fromResult freed) fun _ =>
      Operation.keepsTo_pure _

end NodeAgent
