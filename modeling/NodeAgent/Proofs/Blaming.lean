/-
This file says whom a failure blames. A request that passed its check is not blamed by any step that
follows: what fails then is something that was answered, or something that was not found or was in
the way. The backends in memory never blame the request either.
-/

import NodeAgent.Proofs.Restoring
import NodeAgent.Proofs.Session

namespace NodeAgent

open Operation

/-- The failure of an outcome, where it is one. -/
def failureOf? {Result : Type} : Except Failure Result → Option Failure
  | .ok _ => none
  | .error failure => some failure

/-- The failure that was answered, where an answer is one. A backup that fails is reported and not
handed on, so its end is none. -/
def Exchange.failure? : Exchange backends → Option Failure
  | ⟨.volume call, answer⟩ => failureOf? (show Except Failure call.Result from answer)
  | ⟨.repository (.findNearest _ _ _), answer⟩ =>
    failureOf? (show Except Failure (Option Snapshot) from answer)
  | ⟨.repository (.mountSnapshot _ _ _), answer⟩ =>
    failureOf? (show Except Failure Path from answer)
  | ⟨.repository (.unmountSnapshot _ _), answer⟩ =>
    failureOf? (show Except Failure Unit from answer)
  | ⟨.repository (.backup _ _ _ _), _⟩ => none

/-- A conversation accounts for a failure that does not blame the request or that was answered in
it. -/
def AccountsFor (exchanges : List (Exchange backends)) (failure : Failure) : Prop :=
  failure.isInvalidRequest = false ∨ ∃ exchange ∈ exchanges, exchange.failure? = some failure

variable {exchange : Exchange backends} {exchanges first second : List (Exchange backends)}
  {failure : Failure}

theorem AccountsFor.append_right (accounts : AccountsFor second failure) :
    AccountsFor (first ++ second) failure :=
  accounts.imp_right fun ⟨exchange, member, failed⟩ =>
    ⟨exchange, List.mem_append_right first member, failed⟩

theorem AccountsFor.cons (accounts : AccountsFor exchanges failure) :
    AccountsFor (exchange :: exchanges) failure :=
  accounts.imp_right fun ⟨answered, member, failed⟩ =>
    ⟨answered, List.mem_cons_of_mem exchange member, failed⟩

theorem accountsFor_of_failure? (failed : exchange.failure? = some failure) :
    AccountsFor (exchange :: exchanges) failure :=
  Or.inr ⟨exchange, List.mem_cons_self, failed⟩

/-! ### The pool -/

namespace Pool

variable {pool : ThinPool} {name : String} {target : Path} {least : Size} {before after : Roster}

theorem Requires.accountsFor
    (requires : Requires pool name before exchanges (.error failure) after) :
    AccountsFor exchanges failure := by
  cases requires with
  | missing => exact Or.inl rfl
  | unlisted => exact accountsFor_of_failure? rfl

theorem Presents.accountsFor (positive : 0 < least.bytes)
    (presents : Presents pool name least before exchanges (.error failure) after) :
    AccountsFor exchanges failure := by
  cases presents with
  | nonpositive nonpositive => exact absurd nonpositive (Int.not_le.2 positive)
  | unlisted => exact accountsFor_of_failure? rfl
  | createdUnseen _ _ required | extendedUnseen _ _ _ _ required =>
    exact required.accountsFor.cons.cons
  | uncreated | unextended => exact (accountsFor_of_failure? rfl).cons

theorem Mounts.accountsFor
    (mounts : Mounts pool name target before exchanges (.error failure) after) :
    AccountsFor exchanges failure := by
  cases mounts with
  | missing required => exact required.accountsFor
  | unqueried => exact (accountsFor_of_failure? rfl).append_right
  | elsewhere => exact Or.inl rfl
  | refused => exact (accountsFor_of_failure? rfl).cons.append_right
  | mounted _ listed => exact listed.accountsFor.cons.cons.append_right

theorem Unmounts.accountsFor
    (unmounts : Unmounts pool name before exchanges (.error failure) after) :
    AccountsFor exchanges failure := by
  cases unmounts with
  | missing required => exact required.accountsFor
  | unqueried => exact (accountsFor_of_failure? rfl).append_right
  | refused => exact (accountsFor_of_failure? rfl).cons.append_right
  | unmounted _ _ listed => exact listed.accountsFor.cons.cons.append_right

end Pool

/-! ### What a check refuses -/

theorem isInvalidRequest_of_checkVolumeId {id : String}
    (refused : checkVolumeId id = .error failure) : failure.isInvalidRequest = true := by
  unfold checkVolumeId at refused
  repeat' split at refused
  all_goals cases refused
  all_goals rfl

theorem isInvalidRequest_of_checkTargetPath {path : Path}
    (refused : checkTargetPath path = .error failure) : failure.isInvalidRequest = true := by
  unfold checkTargetPath at refused
  repeat' split at refused
  all_goals cases refused
  all_goals rfl

namespace Agent

variable {settings : Settings} {volume : String} {target : Path} {capacity : Option Int}

/-- A publish passes its check where the id, the path and the size all do. -/
theorem checkPublish_eq_ok_iff :
    checkPublish settings volume target capacity = .ok () ↔
      checkVolumeId volume = .ok () ∧ checkTargetPath target = .ok () ∧
        0 < (sizeFor settings capacity).bytes := by
  unfold checkPublish
  cases checkVolumeId volume with
  | error failure => exact iff_of_false nofun nofun
  | ok _ =>
    cases checkTargetPath target with
    | error failure => exact iff_of_false nofun nofun
    | ok _ =>
      by_cases nonpositive : (sizeFor settings capacity).bytes ≤ 0
      · exact iff_of_false (fun passed => by cases (if_pos nonpositive).symm.trans passed)
          fun passed => absurd nonpositive (Int.not_le.2 passed.2.2)
      · exact iff_of_true (if_neg nonpositive) ⟨rfl, rfl, Int.not_le.1 nonpositive⟩

/-- A release passes its check where the id and the path do. -/
theorem checkUnpublish_eq_ok_iff :
    checkUnpublish volume target = .ok () ↔
      checkVolumeId volume = .ok () ∧ checkTargetPath target = .ok () := by
  unfold checkUnpublish
  cases checkVolumeId volume with
  | error failure => exact iff_of_false nofun nofun
  | ok _ => exact (and_iff_right rfl).symm

theorem isInvalidRequest_of_checkUnpublish
    (refused : checkUnpublish volume target = .error failure) :
    failure.isInvalidRequest = true := by
  unfold checkUnpublish at refused
  cases named : checkVolumeId volume with
  | error blamed =>
    rw [named] at refused
    cases refused
    exact isInvalidRequest_of_checkVolumeId named
  | ok _ =>
    rw [named] at refused
    exact isInvalidRequest_of_checkTargetPath refused

theorem isInvalidRequest_of_checkPublish
    (refused : checkPublish settings volume target capacity = .error failure) :
    failure.isInvalidRequest = true := by
  unfold checkPublish at refused
  cases named : checkVolumeId volume with
  | error blamed =>
    rw [named] at refused
    cases refused
    exact isInvalidRequest_of_checkVolumeId named
  | ok _ =>
    rw [named] at refused
    cases placed : checkTargetPath target with
    | error blamed =>
      rw [placed] at refused
      cases refused
      exact isInvalidRequest_of_checkTargetPath placed
    | ok _ =>
      rw [placed] at refused
      by_cases nonpositive : (sizeFor settings capacity).bytes ≤ 0
      · cases (if_pos nonpositive).symm.trans refused
        rfl
      · cases (if_neg nonpositive).symm.trans refused

end Agent

/-! ### Restoring, publishing and releasing -/

theorem Restore.Restores.accountsFor {pool : ThinPool} {volume : String} {source : Source}
    {volumePoint snapshotPoint : Path} {before after : Roster}
    (restores : Restore.Restores pool volume source volumePoint snapshotPoint before exchanges
      (.error failure) after) :
    AccountsFor exchanges failure := by
  generalize ended : (Except.error failure : Except Failure Unit) = outcome at restores
  cases restores with
  | unstaged refused =>
    cases ended
    exact (Pool.mounts_of_converses refused).accountsFor
  | unserved told =>
    cases ended
    exact (accountsFor_of_failure? rfl).append_right
  | @copied _ _ _ _ freed _ content copy release _ released =>
    match copy, release, freed with
    | .error told, _, _ =>
      cases ended
      exact (accountsFor_of_failure? rfl).cons.append_right
    | .ok (), .error told, _ =>
      cases ended
      exact (accountsFor_of_failure? rfl).cons.cons.append_right
    | .ok (), .ok (), .error told =>
      cases ended
      exact (Pool.unmounts_of_converses released).accountsFor.cons.cons.cons.append_right
    | .ok (), .ok (), .ok _ => cases ended

namespace Agent

variable {settings : Settings} {now : Instant} {volume : String} {target : Path}
  {capacity : Option Int} {agent after : Agent}

theorem Fills.accountsFor {before last : Roster} {due : Bool} {how : Filling}
    (fills : Fills settings now volume before due exchanges how last)
    (failed : how.outcome = .error failure) : AccountsFor exchanges failure := by
  cases fills with
  | unfilled | nothingFound | restored => cases failed
  | broken selected restoration =>
    cases failed
    exact (Restore.restores_of_converses restoration).accountsFor.append_right

/-- A publish that passed its check and failed has an account of its failure. -/
theorem Publishes.accountsFor {progress : Progress}
    (course : Publishes settings now volume target capacity agent exchanges progress
      (.error failure) after)
    (valid : checkPublish settings volume target capacity = .ok ()) :
    AccountsFor exchanges failure := by
  cases course with
  | refused invalid =>
    rw [valid] at invalid
    cases invalid
  | absent _ lacking =>
    exact (Pool.presents_of_converses lacking).accountsFor (checkPublish_eq_ok_iff.1 valid).2.2
  | broken _ _ _ filled failed => exact (filled.accountsFor failed).append_right
  | unmounted _ _ _ _ _ unmounted =>
    exact (Pool.mounts_of_converses unmounted).accountsFor.append_right

/-- A release that passed its check and failed has an account of its failure. -/
theorem Releases.accountsFor
    (course : Releases settings now volume target agent exchanges (.error failure) after)
    (valid : checkUnpublish volume target = .ok ()) :
    AccountsFor exchanges failure := by
  generalize ended : (Except.error failure : Except Failure Released) = outcome at course
  cases course with
  | refused invalid =>
    rw [valid] at invalid
    cases invalid
  | unlisted _ looked =>
    cases ended
    cases Pool.finds_of_converses looked with
    | unlisted => exact accountsFor_of_failure? rfl
  | missing =>
    cases ended
    exact Or.inl rfl
  | @departed _ current _ _ _ _ _ looked departs =>
    refine AccountsFor.append_right ?_
    generalize agent.skipReason? current volume = reason at departs
    cases departs with
    | stuck left =>
      cases ended
      exact (Pool.unmounts_of_converses left).accountsFor
    | skipped => cases ended
    | unstaged left staged =>
      cases ended
      exact (Pool.mounts_of_converses staged).accountsFor.append_right
    | @backedUp _ _ _ _ _ _ _ _ _ freed _ left staged backed unmounted =>
      cases freed with
      | ok volume => cases ended
      | error told =>
        cases ended
        refine AccountsFor.append_right (AccountsFor.append_right (AccountsFor.append_right ?_))
        exact (Pool.unmounts_of_converses unmounted).accountsFor

end Agent

/-! ### The backends in memory -/

namespace Memory

theorem VolumeStore.isBackendFailure_of_perform {store : VolumeStore} {call : VolumeCall}
    (failed : (store.perform call).1 = .error failure) : failure.isBackendFailure = true := by
  cases call with
  | isThin | list | queryMount | copyTree => cases failed
  | create pool name size =>
    change (store.create name size).1 = _ at failed
    unfold create at failed
    repeat' split at failed
    all_goals cases failed
    all_goals rfl
  | extend pool name size =>
    change (store.extend name size).1 = _ at failed
    unfold extend at failed
    split at failed
    all_goals cases failed
    rfl
  | remove pool name =>
    change (store.remove name).1 = _ at failed
    unfold remove at failed
    split at failed
    all_goals cases failed
    rfl
  | mount device target =>
    change (store.mount device target).1 = _ at failed
    unfold mount at failed
    repeat' split at failed
    all_goals cases failed
    all_goals rfl
  | unmount device =>
    change (store.unmount device).1 = _ at failed
    unfold unmount at failed
    split at failed
    all_goals cases failed
    all_goals rfl

theorem VolumeStore.isBackendFailure_of_answer {store : VolumeStore} {call : VolumeCall}
    (failed : (store.answer call).1 = .error failure) : failure.isBackendFailure = true := by
  unfold answer at failed
  split at failed
  · exact isBackendFailure_of_perform failed
  dsimp only at failed
  split at failed
  · cases failed
    rfl
  · exact isBackendFailure_of_perform failed

theorem RepositoryStore.isBackendFailure_of_unlessTold {Result : Type} {store : RepositoryStore}
    {repository : String} {op : RepositoryOp} {outcome : Except Failure Result × RepositoryStore}
    (failed : (store.unlessTold repository op outcome).1 = .error failure) :
    failure.isBackendFailure = true ∨ outcome.1 = .error failure := by
  rw [fst_unlessTold] at failed
  split at failed
  · cases failed
    exact Or.inl rfl
  · exact Or.inr failed

theorem failureOf?_eq_some {Result : Type} {outcome : Except Failure Result}
    (failed : failureOf? outcome = some failure) : outcome = .error failure := by
  cases outcome with
  | ok result => cases failed
  | error told =>
    cases failed
    rfl

/-- The backends in memory fail as tools do. -/
theorem Backends.isBackendFailure_of_answer {world : Backends} {call : Call}
    (failed : Exchange.failure? ⟨call, (Backends.answer call world).1⟩ = some failure) :
    failure.isBackendFailure = true := by
  match call, failed with
  | .volume call, failed => exact VolumeStore.isBackendFailure_of_answer (failureOf?_eq_some failed)
  | .repository (.findNearest destination volume time), failed =>
    rcases RepositoryStore.isBackendFailure_of_unlessTold (failureOf?_eq_some failed) with
      told | found
    · exact told
    · cases found
  | .repository (.mountSnapshot destination snapshot point), failed =>
    rcases RepositoryStore.isBackendFailure_of_unlessTold (failureOf?_eq_some failed) with
      told | mounted
    · exact told
    unfold RepositoryStore.mount at mounted
    split at mounted
    all_goals cases mounted
    rfl
  | .repository (.unmountSnapshot destination point), failed =>
    rcases RepositoryStore.isBackendFailure_of_unlessTold (failureOf?_eq_some failed) with
      told | unmounted
    · exact told
    unfold RepositoryStore.unmount at unmounted
    split at unmounted
    all_goals cases unmounted
    rfl

/-- So a failure that is accounted for by what they answered does not blame the request. -/
theorem Answered.not_isInvalidRequest {world last : Backends}
    (answered : Answered world exchanges last) (accounts : AccountsFor exchanges failure) :
    failure.isInvalidRequest = false := by
  rcases accounts with blameless | ⟨exchange, member, failed⟩
  · exact blameless
  have told : failure.isBackendFailure = true := by
    induction answered with
    | nil => cases member
    | cons call answered inductionHypothesis =>
      rcases List.mem_cons.1 member with rfl | later
      · exact Backends.isBackendFailure_of_answer failed
      · exact inductionHypothesis later
  cases failure with
  | backend => rfl
  | _ => cases told

end Memory

end NodeAgent
