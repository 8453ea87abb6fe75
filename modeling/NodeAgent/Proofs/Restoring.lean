/-
This file lists how a restore can go, whatever is answered. The volume cannot be mounted at the
staging path; or it can and the snapshot cannot; or both can and the tree is copied. In the last two
cases what was mounted is released, and the first failure is the one that is reported.
-/

import NodeAgent.Proofs.Pool
import NodeAgent.Restore

namespace NodeAgent.Restore

open Operation

variable {pool : ThinPool} {volume : String} {source : Source} {volumePoint snapshotPoint : Path}
  {before after : Roster} {exchanges : List (Exchange backends)} {outcome : Except Failure Unit}

/-- How a restore can go. -/
inductive Restores (pool : ThinPool) (volume : String) (source : Source)
    (volumePoint snapshotPoint : Path) (before : Roster) :
    List (Exchange backends) → Except Failure Unit → Roster → Prop where
  | unstaged {staging failure after}
      (refused : Converses (Pool.ensureMounted pool volume volumePoint) before staging
        (.error failure) after) :
      Restores pool volume source volumePoint snapshotPoint before staging (.error failure) after
  | unserved {staging placed middle releasing freed after} (failure : Failure)
      (staged : Converses (Pool.ensureMounted pool volume volumePoint) before staging (.ok placed)
        middle)
      (released : Converses (Pool.ensureUnmounted pool volume) middle releasing freed after) :
      Restores pool volume source volumePoint snapshotPoint before
        (staging ++
          .ofRepository (.mountSnapshot source.destination source.snapshot snapshotPoint)
            (.error failure) :: releasing)
        (.error failure) after
  | copied {staging placed middle releasing freed after} (content : Path)
      (copy release : Except Failure Unit)
      (staged : Converses (Pool.ensureMounted pool volume volumePoint) before staging (.ok placed)
        middle)
      (released : Converses (Pool.ensureUnmounted pool volume) middle releasing freed after) :
      Restores pool volume source volumePoint snapshotPoint before
        (staging ++
          .ofRepository (.mountSnapshot source.destination source.snapshot snapshotPoint)
            (.ok content) ::
          .ofVolume (.copyTree content volumePoint) copy ::
          .ofRepository (.unmountSnapshot source.destination snapshotPoint) release :: releasing)
        (do copy; release; freed.map fun _ => ()) after

/-- The results are looked at once everything is done, and the first failure counts. -/
theorem converses_results_iff {copy release : Except Failure Unit}
    {freed : Except Failure Volume} :
    Converses (do
        let _ ← fromResult copy
        let _ ← fromResult release
        let _ ← fromResult freed : Operation Roster Unit) before exchanges outcome after ↔
      exchanges = [] ∧ outcome = (do copy; release; freed.map fun _ => ()) ∧ after = before := by
  match copy, release, freed with
  | .error failure, _, _ => exact converses_throw_iff
  | .ok (), .error failure, _ => exact converses_throw_iff
  | .ok (), .ok (), .error failure => exact converses_throw_iff
  | .ok (), .ok (), .ok volume => exact converses_pure_iff

/-- Every conversation of a restore goes one of these ways. -/
theorem restores_of_converses
    (conversation : Converses (restore pool volume source volumePoint snapshotPoint) before
      exchanges outcome after) :
    Restores pool volume source volumePoint snapshotPoint before exchanges outcome after := by
  rcases converses_bind_iff.1 conversation with
    ⟨staging, _, placed, middle, rfl, staged, serving⟩ | ⟨failure, rfl, refused⟩
  · obtain ⟨mounted, _, rfl, decided⟩ := converses_askRepository_bind_iff.1 serving
    match mounted, decided with
    | .error failure, decided =>
      obtain ⟨releasing, _, freed, _, rfl, released, failed⟩ :=
        converses_attempt_bind_iff.1 decided
      obtain ⟨rfl, rfl, rfl⟩ := converses_throw_iff.1 failed
      rw [List.append_nil]
      exact .unserved failure staged released
    | .ok content, decided =>
      obtain ⟨_, _, copy, _, rfl, copied, further⟩ := converses_attempt_bind_iff.1 decided
      obtain ⟨rfl, rfl⟩ := converses_askVolume_iff.1 copied
      obtain ⟨release, _, rfl, freeing⟩ := converses_askRepository_bind_iff.1 further
      obtain ⟨releasing, _, freed, _, rfl, released, ended⟩ :=
        converses_attempt_bind_iff.1 freeing
      obtain ⟨rfl, rfl, rfl⟩ := converses_results_iff.1 ended
      rw [List.append_nil]
      exact .copied content copy release staged released
  · exact .unstaged refused

end NodeAgent.Restore
