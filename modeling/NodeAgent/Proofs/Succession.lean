/-
This file follows a restore through its five stages: the volume is mounted, the snapshot is mounted,
the tree is copied, and the snapshot and the volume are released. Each stage can fail on its own.
Only the two mounts decide which stages are tried; a copy or a release that fails keeps none of the
others from being tried, and it is the earliest failure that is reported.
-/

import NodeAgent.Proofs.Blaming

namespace NodeAgent

open Operation

/-! ### Copies -/

/-- The source and the target of a copy, where the question asks for one. -/
def Call.copy? : Call → Option (Path × Path)
  | volume (.copyTree source target) => some (source, target)
  | _ => none

/-- The copies that were asked for in a conversation, in order. -/
def copiesOf (exchanges : List (Exchange backends)) : List (Path × Path) :=
  (callsOf exchanges).filterMap Call.copy?

theorem copiesOf_append (first second : List (Exchange backends)) :
    copiesOf (first ++ second) = copiesOf first ++ copiesOf second := by
  simp [copiesOf]

theorem Call.IsMounting.copy?_eq_none {call : Call} {name : String}
    (mounting : call.IsMounting name) : call.copy? = none := by
  match call, mounting with
  | .volume (.list _), _ | .volume (.queryMount _), _ | .volume (.mount _ _), _
  | .volume (.unmount _), _ => rfl

theorem copiesOf_eq_nil {name : String} {exchanges : List (Exchange backends)}
    (mounting : ∀ exchange ∈ exchanges, Call.IsMounting name exchange.question) :
    copiesOf exchanges = [] := by
  refine List.filterMap_eq_nil_iff.2 fun question member => ?_
  obtain ⟨exchange, asked, rfl⟩ := List.mem_map.1 member
  exact (mounting exchange asked).copy?_eq_none

namespace Restore

/-! ### Stages -/

/-- The stages of a restore, in the order in which they are tried. -/
inductive Stage where
  | volumeMount
  | snapshotMount
  | copy
  | snapshotRelease
  | volumeRelease
deriving DecidableEq

/-- A stage that was tried: what was asked for it, and its failure where it failed. -/
structure Attempt where
  stage : Stage
  asked : List (Exchange backends)
  failure : Option Failure

/-- How one stage can go, where a mounted snapshot has its content at the given place. -/
def Tries (pool : ThinPool) (volume : String) (source : Source)
    (volumePoint snapshotPoint content : Path) (before : Roster) : Attempt → Roster → Prop
  | ⟨.volumeMount, asked, failure⟩, after =>
    ∃ outcome, Converses (Pool.ensureMounted pool volume volumePoint) before asked outcome after ∧
      failure = failureOf? outcome
  | ⟨.snapshotMount, asked, failure⟩, after =>
    ∃ answer : Except Failure Path,
      asked = [.ofRepository
        (.mountSnapshot source.destination source.snapshot snapshotPoint) answer] ∧
      failure = failureOf? answer ∧ after = before ∧ ∀ place, answer = .ok place → place = content
  | ⟨.copy, asked, failure⟩, after =>
    ∃ answer : Except Failure Unit,
      asked = [.ofVolume (.copyTree content volumePoint) answer] ∧ failure = failureOf? answer ∧
      after = before
  | ⟨.snapshotRelease, asked, failure⟩, after =>
    ∃ answer : Except Failure Unit,
      asked = [.ofRepository (.unmountSnapshot source.destination snapshotPoint) answer] ∧
      failure = failureOf? answer ∧ after = before
  | ⟨.volumeRelease, asked, failure⟩, after =>
    ∃ outcome, Converses (Pool.ensureUnmounted pool volume) before asked outcome after ∧
      failure = failureOf? outcome

/-- Stages that are tried one after another. -/
inductive TriesAll (pool : ThinPool) (volume : String) (source : Source)
    (volumePoint snapshotPoint content : Path) : Roster → List Attempt → Roster → Prop where
  | nil (roster : Roster) :
      TriesAll pool volume source volumePoint snapshotPoint content roster [] roster
  | cons {before middle after attempt rest}
      (first : Tries pool volume source volumePoint snapshotPoint content before attempt middle)
      (others : TriesAll pool volume source volumePoint snapshotPoint content middle rest after) :
      TriesAll pool volume source volumePoint snapshotPoint content before (attempt :: rest) after

/-- A stage was tried and failed. -/
def Failed (stage : Stage) (attempts : List Attempt) : Prop :=
  ∃ attempt ∈ attempts, attempt.stage = stage ∧ attempt.failure ≠ none

/-- The stages that were tried, in order. -/
def stagesOf (attempts : List Attempt) : List Stage := attempts.map Attempt.stage

/-- What is reported of attempts: the failure of the earliest one that failed. -/
def verdict (attempts : List Attempt) : Except Failure Unit :=
  match attempts.findSome? Attempt.failure with
  | some failure => .error failure
  | none => .ok ()

/-- The attempts are those of a restore that asked and reported this: only the mounts decide what is
tried, there is one copy where both came out well and none otherwise, and the earliest failure is
reported. -/
structure Follows (content volumePoint : Path) (attempts : List Attempt)
    (exchanges : List (Exchange backends)) (outcome : Except Failure Unit) : Prop where
  asked : exchanges = attempts.flatMap Attempt.asked
  unmounted : Failed .volumeMount attempts → stagesOf attempts = [.volumeMount]
  unserved : ¬Failed .volumeMount attempts → Failed .snapshotMount attempts →
    stagesOf attempts = [.volumeMount, .snapshotMount, .volumeRelease]
  whole : ¬Failed .volumeMount attempts → ¬Failed .snapshotMount attempts →
    stagesOf attempts = [.volumeMount, .snapshotMount, .copy, .snapshotRelease, .volumeRelease]
  copied : ¬Failed .volumeMount attempts → ¬Failed .snapshotMount attempts →
    copiesOf exchanges = [(content, volumePoint)]
  uncopied : Failed .volumeMount attempts ∨ Failed .snapshotMount attempts →
    copiesOf exchanges = []
  reported : outcome = verdict attempts
  well : outcome = .ok () ↔
    stagesOf attempts = [.volumeMount, .snapshotMount, .copy, .snapshotRelease, .volumeRelease] ∧
      ∀ attempt ∈ attempts, attempt.failure = none

variable {pool : ThinPool} {volume : String} {source : Source}
  {volumePoint snapshotPoint content : Path} {before after : Roster} {attempt : Attempt}
  {attempts : List Attempt} {exchanges : List (Exchange backends)}
  {outcome : Except Failure Unit}

@[simp] theorem failed_cons_iff {stage : Stage} :
    Failed stage (attempt :: attempts) ↔
      (attempt.stage = stage ∧ attempt.failure ≠ none) ∨ Failed stage attempts := by
  simp [Failed]

theorem failed_head {stage : Stage} {failure : Failure} :
    Failed stage (⟨stage, exchanges, some failure⟩ :: attempts) :=
  failed_cons_iff.2 (Or.inl ⟨rfl, nofun⟩)

theorem Failed.cons {stage : Stage} (failed : Failed stage attempts) :
    Failed stage (attempt :: attempts) :=
  failed_cons_iff.2 (Or.inr failed)

@[simp] theorem not_failed_nil (stage : Stage) : ¬Failed stage [] := by
  simp [Failed]

theorem verdict_eq_ok_iff :
    verdict attempts = .ok () ↔ ∀ attempt ∈ attempts, attempt.failure = none := by
  rw [← List.findSome?_eq_none_iff]
  unfold verdict
  cases attempts.findSome? Attempt.failure with
  | none => simp
  | some failure => simp

example (copy release : Failure) :
    verdict [⟨.copy, [], some copy⟩, ⟨.snapshotRelease, [], some release⟩] = .error copy := rfl

theorem verdict_cons_failureOf? {Result : Type} {stage : Stage} {tried : Except Failure Result} :
    verdict (⟨stage, exchanges, failureOf? tried⟩ :: attempts) =
      tried >>= fun _ => verdict attempts := by
  cases tried with
  | ok result => rfl
  | error failure => rfl

/-- Once the mounts came out well, the verdict is on the copy and the releases. -/
theorem verdict_releases {copy release : Except Failure Unit} {freed : Except Failure Volume}
    {copying releasing freeing : List (Exchange backends)} :
    verdict [⟨.copy, copying, failureOf? copy⟩, ⟨.snapshotRelease, releasing, failureOf? release⟩,
        ⟨.volumeRelease, freeing, failureOf? freed⟩] =
      (do copy; release; freed.map fun _ => ()) := by
  simp only [verdict_cons_failureOf?]
  cases freed with
  | ok volume => rfl
  | error failure => rfl

/-- Only the copy asks for a copy. -/
theorem Tries.copiesOf_eq
    (tries : Tries pool volume source volumePoint snapshotPoint content before attempt after) :
    copiesOf attempt.asked = if attempt.stage = .copy then [(content, volumePoint)] else [] := by
  match attempt, tries with
  | ⟨.volumeMount, _, _⟩, ⟨_, mounting, _⟩ =>
    exact copiesOf_eq_nil (Pool.asksOnly_ensureMounted mounting)
  | ⟨.volumeRelease, _, _⟩, ⟨_, unmounting, _⟩ =>
    exact copiesOf_eq_nil (Pool.asksOnly_ensureUnmounted unmounting)
  | ⟨.snapshotMount, _, _⟩, ⟨_, rfl, _⟩ | ⟨.copy, _, _⟩, ⟨_, rfl, _⟩
  | ⟨.snapshotRelease, _, _⟩, ⟨_, rfl, _⟩ => rfl

theorem TriesAll.copiesOf_eq
    (tries : TriesAll pool volume source volumePoint snapshotPoint content before attempts after) :
    copiesOf (attempts.flatMap Attempt.asked) =
      ((stagesOf attempts).filter (· = .copy)).map fun _ => (content, volumePoint) := by
  induction tries with
  | nil => rfl
  | @cons _ _ _ attempt rest first others inductionHypothesis =>
    rw [List.flatMap_cons, copiesOf_append, first.copiesOf_eq, inductionHypothesis]
    by_cases copies : attempt.stage = .copy
    · simp [stagesOf, copies]
    · simp [stagesOf, copies]

/-- What is copied and when all is well follows from which stages are tried. -/
theorem TriesAll.follows
    (tries : TriesAll pool volume source volumePoint snapshotPoint content before attempts after)
    (unmounted : Failed .volumeMount attempts → stagesOf attempts = [.volumeMount])
    (unserved : ¬Failed .volumeMount attempts → Failed .snapshotMount attempts →
      stagesOf attempts = [.volumeMount, .snapshotMount, .volumeRelease])
    (whole : ¬Failed .volumeMount attempts → ¬Failed .snapshotMount attempts →
      stagesOf attempts =
        [.volumeMount, .snapshotMount, .copy, .snapshotRelease, .volumeRelease]) :
    Follows content volumePoint attempts (attempts.flatMap Attempt.asked) (verdict attempts) where
  asked := rfl
  unmounted := unmounted
  unserved := unserved
  whole := whole
  copied mounted served := by
    rw [tries.copiesOf_eq, whole mounted served]
    rfl
  uncopied failed := by
    rw [tries.copiesOf_eq]
    by_cases mounted : Failed .volumeMount attempts
    · rw [unmounted mounted]
      rfl
    · rw [unserved mounted (failed.resolve_left mounted)]
      rfl
  reported := rfl
  well := by
    rw [verdict_eq_ok_iff]
    refine ⟨fun well => ⟨?_, well⟩, And.right⟩
    have none (stage : Stage) : ¬Failed stage attempts :=
      fun ⟨attempt, member, _, failed⟩ => failed (well attempt member)
    exact whole (none _) (none _)

/-! ### Conversations as attempts -/

/-- A conversation of a restore is a sequence of attempts. -/
theorem Restores.exists_attempts
    (restores : Restores pool volume source volumePoint snapshotPoint before exchanges outcome
      after) :
    ∃ content attempts,
      TriesAll pool volume source volumePoint snapshotPoint content before attempts after ∧
        Follows content volumePoint attempts exchanges outcome := by
  cases restores with
  | @unstaged _ failure _ refused =>
    -- No snapshot was mounted, so any path can stand for the content, also in the next case.
    have tries : TriesAll pool volume source volumePoint snapshotPoint volumePoint before
        [⟨.volumeMount, exchanges, some failure⟩] after :=
      .cons ⟨_, refused, rfl⟩ (.nil after)
    have failed : Failed .volumeMount [⟨.volumeMount, exchanges, some failure⟩] :=
      failed_head
    have follows := tries.follows (fun _ => rfl) (fun mounted _ => absurd failed mounted)
      (fun mounted _ => absurd failed mounted)
    rw [List.flatMap_singleton] at follows
    exact ⟨_, _, tries, follows⟩
  | @unserved staging placed middle releasing freed _ failure staged released =>
    let serving : Attempt :=
      ⟨.snapshotMount, [.ofRepository
        (.mountSnapshot source.destination source.snapshot snapshotPoint) (.error failure)],
        some failure⟩
    have tries : TriesAll pool volume source volumePoint snapshotPoint volumePoint before
        [⟨.volumeMount, staging, none⟩, serving, ⟨.volumeRelease, releasing, failureOf? freed⟩]
        after :=
      .cons ⟨_, staged, rfl⟩
        (.cons ⟨.error failure, rfl, rfl, rfl, nofun⟩ (.cons ⟨_, released, rfl⟩ (.nil after)))
    have follows := tries.follows (by simp [serving])
      (fun _ _ => rfl) (by simp [serving])
    simp only [List.flatMap_cons, List.flatMap_nil, List.append_nil] at follows
    exact ⟨_, _, tries, follows⟩
  | @copied staging placed middle releasing freed _ content copy release staged released =>
    have tries : TriesAll pool volume source volumePoint snapshotPoint content before
        [⟨.volumeMount, staging, none⟩,
          ⟨.snapshotMount, [.ofRepository
            (.mountSnapshot source.destination source.snapshot snapshotPoint) (.ok content)], none⟩,
          ⟨.copy, [.ofVolume (.copyTree content volumePoint) copy], failureOf? copy⟩,
          ⟨.snapshotRelease, [.ofRepository
            (.unmountSnapshot source.destination snapshotPoint) release], failureOf? release⟩,
          ⟨.volumeRelease, releasing, failureOf? freed⟩] after :=
      .cons ⟨_, staged, rfl⟩
        (.cons ⟨.ok content, rfl, rfl, rfl, fun _ found => (Except.ok.inj found).symm⟩
          (.cons ⟨copy, rfl, rfl, rfl⟩ (.cons ⟨release, rfl, rfl, rfl⟩
            (.cons ⟨_, released, rfl⟩ (.nil after)))))
    have follows := tries.follows (by simp)
      (by simp) (fun _ _ => rfl)
    simp only [List.flatMap_cons, List.flatMap_nil, List.append_nil] at follows
    refine ⟨_, _, tries, ?_⟩
    rw [← verdict_releases]
    exact follows

/-- The first of the attempts belongs to the first of their stages. -/
theorem TriesAll.of_stagesOf_eq_cons {stage : Stage} {stages : List Stage}
    (tries : TriesAll pool volume source volumePoint snapshotPoint content before attempts after)
    (staged : stagesOf attempts = stage :: stages) :
    ∃ asked failure rest middle,
      attempts = ⟨stage, asked, failure⟩ :: rest ∧
        Tries pool volume source volumePoint snapshotPoint content before ⟨stage, asked, failure⟩
          middle ∧
        TriesAll pool volume source volumePoint snapshotPoint content middle rest after ∧
        stagesOf rest = stages := by
  cases tries with
  | nil => cases staged
  | @cons _ middle _ attempt rest first others =>
    cases staged
    exact ⟨attempt.asked, attempt.failure, rest, middle, rfl, first, others, rfl⟩

theorem TriesAll.of_stagesOf_eq_nil
    (tries : TriesAll pool volume source volumePoint snapshotPoint content before attempts after)
    (staged : stagesOf attempts = []) : attempts = [] ∧ after = before := by
  cases tries with
  | nil => exact ⟨rfl, rfl⟩
  | cons first others => cases staged

/-- Attempts that follow in this way are those of a conversation of a restore. -/
theorem Restores.of_attempts
    (tries : TriesAll pool volume source volumePoint snapshotPoint content before attempts after)
    (follows : Follows content volumePoint attempts exchanges outcome) :
    Restores pool volume source volumePoint snapshotPoint before exchanges outcome after := by
  obtain rfl := follows.asked
  obtain rfl := follows.reported
  -- The mounts decide which stages there are; the attempts are then taken apart stage by stage.
  by_cases mounted : Failed .volumeMount attempts
  · obtain ⟨_, _, _, _, rfl, ⟨staged, mounting, rfl⟩, tries, rest⟩ :=
      tries.of_stagesOf_eq_cons (follows.unmounted mounted)
    obtain ⟨rfl, rfl⟩ := tries.of_stagesOf_eq_nil rest
    cases staged with
    | ok placed => simp [failureOf?] at mounted
    | error failure =>
      rw [List.flatMap_singleton]
      exact .unstaged mounting
  by_cases served : Failed .snapshotMount attempts
  · obtain ⟨_, _, _, _, rfl, ⟨staged, mounting, rfl⟩, tries, rest⟩ :=
      tries.of_stagesOf_eq_cons (follows.unserved mounted served)
    obtain ⟨_, _, _, _, rfl, ⟨answer, rfl, rfl, rfl, _⟩, tries, rest⟩ :=
      tries.of_stagesOf_eq_cons rest
    obtain ⟨_, _, _, _, rfl, ⟨_, releasing, rfl⟩, tries, rest⟩ := tries.of_stagesOf_eq_cons rest
    obtain ⟨rfl, rfl⟩ := tries.of_stagesOf_eq_nil rest
    match staged, answer with
    | .error failure, _ => exact absurd failed_head mounted
    | .ok placed, .ok content => simp [failureOf?] at served
    | .ok placed, .error failure =>
      simp only [List.flatMap_cons, List.flatMap_nil, List.append_nil]
      exact .unserved failure mounting releasing
  obtain ⟨_, _, _, _, rfl, ⟨staged, mounting, rfl⟩, tries, rest⟩ :=
    tries.of_stagesOf_eq_cons (follows.whole mounted served)
  obtain ⟨_, _, _, _, rfl, ⟨answer, rfl, rfl, rfl, placed⟩, tries, rest⟩ :=
    tries.of_stagesOf_eq_cons rest
  obtain ⟨_, _, _, _, rfl, ⟨copy, rfl, rfl, rfl⟩, tries, rest⟩ := tries.of_stagesOf_eq_cons rest
  obtain ⟨_, _, _, _, rfl, ⟨release, rfl, rfl, rfl⟩, tries, rest⟩ := tries.of_stagesOf_eq_cons rest
  obtain ⟨_, _, _, _, rfl, ⟨_, releasing, rfl⟩, tries, rest⟩ := tries.of_stagesOf_eq_cons rest
  obtain ⟨rfl, rfl⟩ := tries.of_stagesOf_eq_nil rest
  match staged, answer with
  | .error failure, _ => exact absurd failed_head mounted
  | .ok _, .error failure =>
    exact absurd failed_head.cons served
  | .ok _, .ok place =>
    obtain rfl := placed place rfl
    rw [verdict_cons_failureOf?, verdict_cons_failureOf?, verdict_releases]
    simp only [List.flatMap_cons, List.flatMap_nil, List.append_nil]
    exact .copied place copy release mounting releasing

/-- The ways in which a restore can go are all conversations of it. -/
theorem Restores.converses
    (restores : Restores pool volume source volumePoint snapshotPoint before exchanges outcome
      after) :
    Converses (restore pool volume source volumePoint snapshotPoint) before exchanges outcome
      after := by
  cases restores with
  | unstaged refused => exact converses_bind_iff.2 (.inr ⟨_, rfl, refused⟩)
  | @unserved staging placed middle releasing freed _ failure staged released =>
    refine converses_bind_iff.2 (.inl ⟨staging, _, placed, middle, rfl, staged, ?_⟩)
    refine converses_askRepository_bind_iff.2 ⟨.error failure, releasing, rfl, ?_⟩
    exact converses_attempt_bind_iff.2 ⟨releasing, [], freed, _, (List.append_nil _).symm, released,
      converses_throw_iff.2 ⟨rfl, rfl, rfl⟩⟩
  | @copied staging placed middle releasing freed _ content copy release staged released =>
    refine converses_bind_iff.2 (.inl ⟨staging, _, placed, middle, rfl, staged, ?_⟩)
    refine converses_askRepository_bind_iff.2 ⟨.ok content, _, rfl, ?_⟩
    refine converses_attempt_bind_iff.2
      ⟨[_], _, copy, middle, rfl, converses_askVolume_iff.2 ⟨rfl, rfl⟩, ?_⟩
    refine converses_askRepository_bind_iff.2 ⟨release, releasing, rfl, ?_⟩
    exact converses_attempt_bind_iff.2 ⟨releasing, [], freed, _, (List.append_nil _).symm, released,
      converses_results_iff.2 ⟨rfl, rfl, rfl⟩⟩

/-- A restore tries its stages in order, whatever is answered: its conversations are those in which
only the mounts decide what is tried, everything tried is released in order, and the failure of the
earliest stage is reported. -/
theorem converses_iff_attempts :
    Converses (restore pool volume source volumePoint snapshotPoint) before exchanges outcome
        after ↔
      ∃ content attempts,
        TriesAll pool volume source volumePoint snapshotPoint content before attempts after ∧
          Follows content volumePoint attempts exchanges outcome := by
  constructor
  · intro conversation
    exact (restores_of_converses conversation).exists_attempts
  · rintro ⟨content, attempts, tries, follows⟩
    exact (Restores.of_attempts tries follows).converses

end Restore

end NodeAgent
