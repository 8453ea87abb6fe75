/-
This file lists how the operations on a pool can go, whatever the volume tools answer. For each
operation an inductive relation has one case for each of its ways, with all the exchanges of that
way in order, and one lemma says that there are no others. What is proved later about a pool is
proved by these cases.
-/

import NodeAgent.Pool
import NodeAgent.Proofs.Conversation

namespace NodeAgent.Pool

open Operation

variable {pool : ThinPool} {name : String} {target : Path} {least : Size}
  {before after : Roster} {exchanges : List (Exchange backends)}

/-! ### Listings -/

/-- How replacing the roster can go. -/
inductive Refreshes (pool : ThinPool) (before : Roster) :
    List (Exchange backends) → Except Failure Unit → Roster → Prop where
  | listed (volumes : List Volume) :
      Refreshes pool before [.ofVolume (.list pool) (.ok volumes)] (.ok ()) (rosterOf volumes)
  | unlisted (failure : Failure) :
      Refreshes pool before [.ofVolume (.list pool) (.error failure)] (.error failure) before

/-- How looking a volume up can go. -/
inductive Finds (pool : ThinPool) (name : String) (before : Roster) :
    List (Exchange backends) → Except Failure (Option Volume) → Roster → Prop where
  | listed (volumes : List Volume) :
      Finds pool name before [.ofVolume (.list pool) (.ok volumes)]
        (.ok ((rosterOf volumes).get? name)) (rosterOf volumes)
  | unlisted (failure : Failure) :
      Finds pool name before [.ofVolume (.list pool) (.error failure)] (.error failure) before

/-- How looking up a volume that has to be there can go. -/
inductive Requires (pool : ThinPool) (name : String) (before : Roster) :
    List (Exchange backends) → Except Failure Volume → Roster → Prop where
  | found (volumes : List Volume) (volume : Volume)
      (there : (rosterOf volumes).get? name = some volume) :
      Requires pool name before [.ofVolume (.list pool) (.ok volumes)] (.ok volume)
        (rosterOf volumes)
  | missing (volumes : List Volume) (notThere : (rosterOf volumes).get? name = none) :
      Requires pool name before [.ofVolume (.list pool) (.ok volumes)]
        (.error (.notFound s!"volume {name} not found in {pool}")) (rosterOf volumes)
  | unlisted (failure : Failure) :
      Requires pool name before [.ofVolume (.list pool) (.error failure)] (.error failure) before

theorem refreshes_of_converses {outcome : Except Failure Unit}
    (conversation : Converses (refresh pool) before exchanges outcome after) :
    Refreshes pool before exchanges outcome after := by
  rcases converses_bind_iff.1 conversation with
    ⟨first, second, volumes, middle, rfl, asked, replaced⟩ | ⟨failure, rfl, asked⟩
  · obtain ⟨rfl, rfl⟩ := converses_askVolume_iff.1 asked
    obtain ⟨rfl, rfl, rfl⟩ := converses_set_iff.1 replaced
    exact .listed volumes
  · obtain ⟨rfl, rfl⟩ := converses_askVolume_iff.1 asked
    exact .unlisted failure

theorem converses_refresh_iff {outcome : Except Failure Unit} :
    Converses (refresh pool) before exchanges outcome after ↔
      Refreshes pool before exchanges outcome after := by
  refine ⟨refreshes_of_converses, fun refreshes => ?_⟩
  cases refreshes with
  | listed volumes =>
    exact converses_bind_iff.2 (Or.inl ⟨_, [], volumes, before, rfl,
      converses_askVolume_iff.2 ⟨rfl, rfl⟩, converses_set_iff.2 ⟨rfl, rfl, rfl⟩⟩)
  | unlisted failure =>
    exact converses_bind_iff.2 (Or.inr ⟨failure, rfl, converses_askVolume_iff.2 ⟨rfl, rfl⟩⟩)

theorem finds_of_converses {outcome : Except Failure (Option Volume)}
    (conversation : Converses (find pool name) before exchanges outcome after) :
    Finds pool name before exchanges outcome after := by
  rcases converses_bind_iff.1 conversation with
    ⟨first, second, _, middle, rfl, refreshed, looked⟩ | ⟨failure, rfl, refreshed⟩
  · rw [converses_get_bind_iff] at looked
    obtain ⟨rfl, rfl, rfl⟩ := converses_pure_iff.1 looked
    cases refreshes_of_converses refreshed with
    | listed volumes => exact .listed volumes
  · cases refreshes_of_converses refreshed with
    | unlisted => exact .unlisted failure

theorem requires_of_converses {outcome : Except Failure Volume}
    (conversation : Converses (require pool name) before exchanges outcome after) :
    Requires pool name before exchanges outcome after := by
  rcases converses_bind_iff.1 conversation with
    ⟨first, second, found, middle, rfl, looked, given⟩ | ⟨failure, rfl, looked⟩
  · generalize same : (Except.ok found : Except Failure (Option Volume)) = result at looked
    cases finds_of_converses looked with
    | listed volumes =>
      cases same
      split at given
      · next volume there =>
        obtain ⟨rfl, rfl, rfl⟩ := converses_pure_iff.1 given
        exact .found volumes volume there
      · next notThere =>
        obtain ⟨rfl, rfl, rfl⟩ := converses_throw_iff.1 given
        exact .missing volumes notThere
    | unlisted failure => cases same
  · cases finds_of_converses looked with
    | unlisted => exact .unlisted failure

/-! ### Creating and extending -/

/-- How discarding what a failed creation left behind can go. -/
inductive Discards (pool : ThinPool) (name : String) (before : Roster) :
    List (Exchange backends) → Roster → Prop where
  | unlisted (failure : Failure) :
      Discards pool name before [.ofVolume (.list pool) (.error failure)] before
  | nothing (volumes : List Volume) (notThere : (rosterOf volumes).get? name = none) :
      Discards pool name before [.ofVolume (.list pool) (.ok volumes)] (rosterOf volumes)
  | removed {again outcome after} (volumes : List Volume) (left : Volume)
      (removal : Except Failure Unit) (there : (rosterOf volumes).get? name = some left)
      (refreshed : Refreshes pool (rosterOf volumes) again outcome after) :
      Discards pool name before
        (.ofVolume (.list pool) (.ok volumes) :: .ofVolume (.remove pool name) removal :: again)
        after

/-- How making sure that a volume is there can go. A volume that is created or extended is listed
once more, and that listing may fail or not have it. -/
inductive Presents (pool : ThinPool) (name : String) (least : Size) (before : Roster) :
    List (Exchange backends) → Except Failure Presence → Roster → Prop where
  | nonpositive (nonpositive : least.bytes ≤ 0) :
      Presents pool name least before []
        (.error (.invalidRequest s!"volume size must be positive, got {least}")) before
  | unlisted (failure : Failure) :
      Presents pool name least before [.ofVolume (.list pool) (.error failure)]
        (.error failure) before
  | created {again volume after} (volumes : List Volume)
      (notThere : (rosterOf volumes).get? name = none)
      (required : Requires pool name (rosterOf volumes) again (.ok volume) after) :
      Presents pool name least before
        (.ofVolume (.list pool) (.ok volumes) ::
          .ofVolume (.create pool name least) (.ok ()) :: again)
        (.ok ⟨volume, .created⟩) after
  | createdUnseen {again failure after} (volumes : List Volume)
      (notThere : (rosterOf volumes).get? name = none)
      (required : Requires pool name (rosterOf volumes) again (.error failure) after) :
      Presents pool name least before
        (.ofVolume (.list pool) (.ok volumes) ::
          .ofVolume (.create pool name least) (.ok ()) :: again)
        (.error failure) after
  | uncreated {again after} (volumes : List Volume) (failure : Failure)
      (notThere : (rosterOf volumes).get? name = none)
      (discarded : Discards pool name (rosterOf volumes) again after) :
      Presents pool name least before
        (.ofVolume (.list pool) (.ok volumes) ::
          .ofVolume (.create pool name least) (.error failure) :: again)
        (.error failure) after
  | extended {again volume after} (volumes : List Volume) (existing : Volume)
      (there : (rosterOf volumes).get? name = some existing)
      (smaller : existing.size.bytes < least.bytes)
      (required : Requires pool name (rosterOf volumes) again (.ok volume) after) :
      Presents pool name least before
        (.ofVolume (.list pool) (.ok volumes) ::
          .ofVolume (.extend pool name least) (.ok ()) :: again)
        (.ok ⟨volume, .extended⟩) after
  | extendedUnseen {again failure after} (volumes : List Volume) (existing : Volume)
      (there : (rosterOf volumes).get? name = some existing)
      (smaller : existing.size.bytes < least.bytes)
      (required : Requires pool name (rosterOf volumes) again (.error failure) after) :
      Presents pool name least before
        (.ofVolume (.list pool) (.ok volumes) ::
          .ofVolume (.extend pool name least) (.ok ()) :: again)
        (.error failure) after
  | unextended (volumes : List Volume) (existing : Volume) (failure : Failure)
      (there : (rosterOf volumes).get? name = some existing)
      (smaller : existing.size.bytes < least.bytes) :
      Presents pool name least before
        [.ofVolume (.list pool) (.ok volumes),
          .ofVolume (.extend pool name least) (.error failure)]
        (.error failure) (rosterOf volumes)
  | unchanged (volumes : List Volume) (existing : Volume)
      (there : (rosterOf volumes).get? name = some existing) :
      Presents pool name least before [.ofVolume (.list pool) (.ok volumes)]
        (.ok ⟨existing, .unchanged⟩) (rosterOf volumes)

theorem discards_of_converses {outcome : Except Failure Unit}
    (conversation : Converses (discardPartial pool name) before exchanges outcome after) :
    outcome = .ok () ∧ Discards pool name before exchanges after := by
  obtain ⟨looking, removing, seen, middle, rfl, looked, decided⟩ :=
    converses_attempt_bind_iff.1 conversation
  cases finds_of_converses looked with
  | unlisted failure =>
    obtain ⟨rfl, ended, rfl⟩ := converses_pure_iff.1 decided
    exact ⟨ended, .unlisted failure⟩
  | listed volumes =>
    generalize there : (rosterOf volumes).get? name = entry at decided
    cases entry with
    | none =>
      obtain ⟨rfl, ended, rfl⟩ := converses_pure_iff.1 decided
      exact ⟨ended, .nothing volumes there⟩
    | some left =>
      obtain ⟨_, _, removal, _, rfl, asked, followed⟩ := converses_attempt_bind_iff.1 decided
      obtain ⟨rfl, rfl⟩ := converses_askVolume_iff.1 asked
      obtain ⟨again, _, _, _, rfl, refreshed, last⟩ := converses_attempt_bind_iff.1 followed
      obtain ⟨rfl, ended, rfl⟩ := converses_pure_iff.1 last
      rw [List.append_nil]
      exact ⟨ended, .removed volumes left removal there (refreshes_of_converses refreshed)⟩

theorem presents_of_converses {outcome : Except Failure Presence}
    (conversation : Converses (ensurePresent pool name least) before exchanges outcome after) :
    Presents pool name least before exchanges outcome after := by
  unfold ensurePresent at conversation
  by_cases nonpositive : least.bytes ≤ 0
  · rw [if_pos nonpositive] at conversation
    obtain ⟨rfl, rfl, rfl⟩ := converses_throw_iff.1 conversation
    exact .nonpositive nonpositive
  rw [if_neg nonpositive] at conversation
  rcases converses_bind_iff.1 conversation with
    ⟨looking, deciding, found, seen, rfl, looked, decided⟩ | ⟨failure, rfl, looked⟩
  · generalize same : (Except.ok found : Except Failure (Option Volume)) = result at looked
    cases finds_of_converses looked with
    | unlisted failure => cases same
    | listed volumes =>
      cases same
      generalize there : (rosterOf volumes).get? name = entry at decided
      cases entry with
      | none =>
        obtain ⟨_, following, creation, _, rfl, asked, followed⟩ :=
          converses_attempt_bind_iff.1 decided
        obtain ⟨rfl, rfl⟩ := converses_askVolume_iff.1 asked
        cases creation with
        | ok _ =>
          rcases converses_bind_iff.1 followed with
            ⟨again, _, volume, last, rfl, required, given⟩ | ⟨failure, rfl, required⟩
          · obtain ⟨rfl, rfl, rfl⟩ := converses_pure_iff.1 given
            rw [List.append_nil]
            exact .created volumes there (requires_of_converses required)
          · exact .createdUnseen volumes there (requires_of_converses required)
        | error failure =>
          rcases converses_bind_iff.1 followed with
            ⟨again, _, _, last, rfl, discarded, failed⟩ | ⟨_, rfl, discarded⟩
          · obtain ⟨rfl, rfl, rfl⟩ := converses_throw_iff.1 failed
            rw [List.append_nil]
            exact .uncreated volumes failure there (discards_of_converses discarded).2
          · cases (discards_of_converses discarded).1
      | some existing =>
        dsimp only at decided
        by_cases smaller : existing.size.bytes < least.bytes
        · rw [if_pos smaller] at decided
          rcases converses_bind_iff.1 decided with
            ⟨_, following, _, _, rfl, asked, followed⟩ | ⟨failure, rfl, asked⟩
          · obtain ⟨rfl, rfl⟩ := converses_askVolume_iff.1 asked
            rcases converses_bind_iff.1 followed with
              ⟨again, _, volume, last, rfl, required, given⟩ | ⟨failure, rfl, required⟩
            · obtain ⟨rfl, rfl, rfl⟩ := converses_pure_iff.1 given
              rw [List.append_nil]
              exact .extended volumes existing there smaller (requires_of_converses required)
            · exact .extendedUnseen volumes existing there smaller
                (requires_of_converses required)
          · obtain ⟨rfl, rfl⟩ := converses_askVolume_iff.1 asked
            exact .unextended volumes existing failure there smaller
        · rw [if_neg smaller] at decided
          obtain ⟨rfl, rfl, rfl⟩ := converses_pure_iff.1 decided
          exact .unchanged volumes existing there
  · cases finds_of_converses looked with
    | unlisted => exact .unlisted failure

/-! ### Mounting -/

/-- How making sure that a volume is mounted can go. -/
inductive Mounts (pool : ThinPool) (name : String) (target : Path) (before : Roster) :
    List (Exchange backends) → Except Failure Volume → Roster → Prop where
  | missing {looking failure after}
      (required : Requires pool name before looking (.error failure) after) :
      Mounts pool name target before looking (.error failure) after
  | unqueried {looking volume seen} (failure : Failure)
      (required : Requires pool name before looking (.ok volume) seen) :
      Mounts pool name target before
        (looking ++ [.ofVolume (.queryMount volume.device) (.error failure)])
        (.error failure) seen
  | already {looking volume seen} {place : Path}
      (required : Requires pool name before looking (.ok volume) seen)
      (same : place.same target = true) :
      Mounts pool name target before
        (looking ++ [.ofVolume (.queryMount volume.device) (.ok (some place))])
        (.ok (volume.withTarget (some place)))
        (seen.insert name (volume.withTarget (some place)))
  | elsewhere {looking volume seen} {place : Path}
      (required : Requires pool name before looking (.ok volume) seen)
      (other : place.same target = false) :
      Mounts pool name target before
        (looking ++ [.ofVolume (.queryMount volume.device) (.ok (some place))])
        (.error (.alreadyExists
          s!"volume {name} is mounted at {place.quoted}, refusing to mount at {target.quoted}"))
        seen
  | refused {looking volume seen} (failure : Failure)
      (required : Requires pool name before looking (.ok volume) seen) :
      Mounts pool name target before
        (looking ++ [.ofVolume (.queryMount volume.device) (.ok none),
          .ofVolume (.mount volume.device target) (.error failure)])
        (.error failure) seen
  | mounted {looking volume seen again outcome after}
      (required : Requires pool name before looking (.ok volume) seen)
      (listed : Requires pool name seen again outcome after) :
      Mounts pool name target before
        (looking ++ .ofVolume (.queryMount volume.device) (.ok none) ::
          .ofVolume (.mount volume.device target) (.ok ()) :: again)
        outcome after

/-- How making sure that a volume is not mounted can go. -/
inductive Unmounts (pool : ThinPool) (name : String) (before : Roster) :
    List (Exchange backends) → Except Failure Volume → Roster → Prop where
  | missing {looking failure after}
      (required : Requires pool name before looking (.error failure) after) :
      Unmounts pool name before looking (.error failure) after
  | unqueried {looking volume seen} (failure : Failure)
      (required : Requires pool name before looking (.ok volume) seen) :
      Unmounts pool name before
        (looking ++ [.ofVolume (.queryMount volume.device) (.error failure)])
        (.error failure) seen
  | already {looking volume seen}
      (required : Requires pool name before looking (.ok volume) seen) :
      Unmounts pool name before
        (looking ++ [.ofVolume (.queryMount volume.device) (.ok none)])
        (.ok (volume.withTarget none)) (seen.insert name (volume.withTarget none))
  | refused {looking volume seen} (place : Path) (failure : Failure)
      (required : Requires pool name before looking (.ok volume) seen) :
      Unmounts pool name before
        (looking ++ [.ofVolume (.queryMount volume.device) (.ok (some place)),
          .ofVolume (.unmount volume.device) (.error failure)])
        (.error failure) seen
  | unmounted {looking volume seen again outcome after} (place : Path)
      (required : Requires pool name before looking (.ok volume) seen)
      (listed : Requires pool name seen again outcome after) :
      Unmounts pool name before
        (looking ++ .ofVolume (.queryMount volume.device) (.ok (some place)) ::
          .ofVolume (.unmount volume.device) (.ok ()) :: again)
        outcome after

theorem converses_record_iff {volume : Volume} {found : Option Path}
    {outcome : Except Failure Volume} :
    Converses (record name volume found) before exchanges outcome after ↔
      exchanges = [] ∧ outcome = .ok (volume.withTarget found) ∧
        after = before.insert name (volume.withTarget found) := by
  constructor
  · intro conversation
    rcases converses_bind_iff.1 conversation with
      ⟨first, second, _, middle, rfl, changed, given⟩ | ⟨failure, _, changed⟩
    · obtain ⟨rfl, _, rfl⟩ := converses_modify_iff.1 changed
      obtain ⟨rfl, rfl, rfl⟩ := converses_pure_iff.1 given
      exact ⟨rfl, rfl, rfl⟩
    · obtain ⟨_, same, _⟩ := converses_modify_iff.1 changed
      cases same
  · rintro ⟨rfl, rfl, rfl⟩
    exact .done _

theorem mounts_of_converses {outcome : Except Failure Volume}
    (conversation : Converses (ensureMounted pool name target) before exchanges outcome after) :
    Mounts pool name target before exchanges outcome after := by
  rcases converses_bind_iff.1 conversation with
    ⟨looking, asking, volume, seen, rfl, required, further⟩ | ⟨failure, rfl, required⟩
  · have required := requires_of_converses required
    rcases converses_bind_iff.1 further with
      ⟨query, deciding, current, same, rfl, queried, decided⟩ | ⟨failure, rfl, queried⟩
    · obtain ⟨rfl, rfl⟩ := converses_askVolume_iff.1 queried
      cases current with
      | some place =>
        by_cases there : place.same target = true
        · change Converses (if place.same target = true then _ else _) _ _ _ _ at decided
          rw [if_pos there] at decided
          obtain ⟨rfl, rfl, rfl⟩ := converses_record_iff.1 decided
          exact .already required there
        · change Converses (if place.same target = true then _ else _) _ _ _ _ at decided
          rw [if_neg there] at decided
          obtain ⟨rfl, rfl, rfl⟩ := converses_throw_iff.1 decided
          exact .elsewhere required (Bool.not_eq_true _ ▸ there)
      | none =>
        rcases converses_bind_iff.1 decided with
          ⟨change, again, _, still, rfl, mounted, listed⟩ | ⟨failure, rfl, mounted⟩
        · obtain ⟨rfl, rfl⟩ := converses_askVolume_iff.1 mounted
          exact .mounted required (requires_of_converses listed)
        · obtain ⟨rfl, rfl⟩ := converses_askVolume_iff.1 mounted
          exact .refused failure required
    · obtain ⟨rfl, rfl⟩ := converses_askVolume_iff.1 queried
      exact .unqueried failure required
  · exact .missing (requires_of_converses required)

theorem unmounts_of_converses {outcome : Except Failure Volume}
    (conversation : Converses (ensureUnmounted pool name) before exchanges outcome after) :
    Unmounts pool name before exchanges outcome after := by
  rcases converses_bind_iff.1 conversation with
    ⟨looking, asking, volume, seen, rfl, required, further⟩ | ⟨failure, rfl, required⟩
  · have required := requires_of_converses required
    rcases converses_bind_iff.1 further with
      ⟨query, deciding, current, same, rfl, queried, decided⟩ | ⟨failure, rfl, queried⟩
    · obtain ⟨rfl, rfl⟩ := converses_askVolume_iff.1 queried
      cases current with
      | none =>
        obtain ⟨rfl, rfl, rfl⟩ := converses_record_iff.1 decided
        exact .already required
      | some place =>
        rcases converses_bind_iff.1 decided with
          ⟨change, again, _, still, rfl, unmounted, listed⟩ | ⟨failure, rfl, unmounted⟩
        · obtain ⟨rfl, rfl⟩ := converses_askVolume_iff.1 unmounted
          exact .unmounted place required (requires_of_converses listed)
        · obtain ⟨rfl, rfl⟩ := converses_askVolume_iff.1 unmounted
          exact .refused place failure required
    · obtain ⟨rfl, rfl⟩ := converses_askVolume_iff.1 queried
      exact .unqueried failure required
  · exact .missing (requires_of_converses required)

end NodeAgent.Pool
