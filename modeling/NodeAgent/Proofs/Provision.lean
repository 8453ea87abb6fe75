/-
This file says what making sure that a volume is there does to volumes in memory. Where it comes out
well the volume is stored as it is reported and no other volume changed. Where it fails, the failure
is that of the first step that failed, and nothing has changed: a volume whose formatting failed is
removed again, unless its removal was told to fail as well.
-/

import NodeAgent.Proofs.Blaming
import NodeAgent.Proofs.Repeating

namespace NodeAgent

open Operation

/-! ### The first failure -/

/-- The failure of the first step of making sure that a volume is there that failed. The first step
is the check of the size, which asks nothing; the others are the questions that were asked. -/
def Pool.firstFailure? (least : Size) (exchanges : List (Exchange backends)) : Option Failure :=
  if least.bytes ≤ 0 then some (.invalidRequest s!"volume size must be positive, got {least}")
  else exchanges.findSome? Exchange.failure?

namespace Pool

variable {pool : ThinPool} {name : String} {least : Size} {before after : Roster}
  {exchanges : List (Exchange backends)} {outcome : Except Failure Presence}

/-- A size that is not positive is refused before anything is asked. -/
theorem refused_of_nonpositive (nonpositive : least.bytes ≤ 0)
    (conversation : Converses (ensurePresent pool name least) before exchanges outcome after) :
    exchanges = [] ∧
      outcome = .error (.invalidRequest s!"volume size must be positive, got {least}") := by
  unfold ensurePresent at conversation
  rw [if_pos nonpositive] at conversation
  obtain ⟨asked, refused, _⟩ := converses_throw_iff.1 conversation
  exact ⟨asked, refused⟩

/-- A volume that was found and for which nothing else was asked is large enough. -/
theorem enough_of_single_listing {volumes : List Volume} {existing : Volume}
    (positive : 0 < least.bytes) (there : (rosterOf volumes).get? name = some existing)
    (conversation : Converses (ensurePresent pool name least) before
      [.ofVolume (.list pool) (.ok volumes)] outcome after) :
    least.bytes ≤ existing.size.bytes := by
  unfold ensurePresent at conversation
  rw [if_neg (Int.not_le.2 positive)] at conversation
  refine Int.not_lt.1 fun smaller => ?_
  rcases converses_bind_iff.1 conversation with
    ⟨looking, deciding, found, seen, split, looked, decided⟩ | ⟨failure, _, looked⟩
  · cases finds_of_converses looked with
    | listed given =>
      cases split
      rw [there] at decided
      dsimp only at decided
      rw [if_pos smaller] at decided
      rcases converses_bind_iff.1 decided with ⟨_, _, _, _, none, asked, _⟩ | ⟨_, _, asked⟩
      · rw [(converses_askVolume_iff.1 asked).1] at none
        cases none
      · cases (converses_askVolume_iff.1 asked).1
  · cases finds_of_converses looked

end Pool

namespace Memory

variable {world middle last : Backends} {pool : ThinPool} {name : String} {least : Size}
  {before after : Roster} {exchanges : List (Exchange backends)} {failure : Failure}

/-! ### What calls make of the volumes -/

namespace Answered

/-- Where every volume is stored as before, the volumes are the same. -/
theorem volumes_eq (kept : ∀ other, last.stored other = world.stored other) :
    last.volumes.volumes = world.volumes.volumes :=
  Table.ext_get? kept

theorem volumes_eq_of_list {answer : Except Failure (List Volume)}
    (answered : Answered world [.ofVolume (.list pool) answer] last) :
    last.volumes.volumes = world.volumes.volumes :=
  volumes_eq fun _ => answered.stored_eq (List.forall_mem_singleton.2 id)

/-- An operation that was told to fail changes nothing. -/
theorem volumes_of_told {call : VolumeCall} {op : VolumeOp} {answer : Except Failure call.Result}
    (answered : Answered world [.ofVolume call answer] last)
    (known : VolumeOp.ofCall? call = some op) (told : world.Fails op) :
    last.volumes.volumes = world.volumes.volumes := by
  have given := answered.eq_answer
  rw [VolumeStore.answer_of_failing known told] at given
  rw [← (Prod.mk.inj given).2]

/-- A creation that failed left nothing behind, or a volume that could not be formatted. -/
theorem volumes_of_failed_create
    (answered : Answered world [.ofVolume (.create pool name least) (.error failure)] last) :
    last.volumes.volumes = world.volumes.volumes ∨
      world.Fails .format ∧
        last.volumes.volumes = world.volumes.volumes.insert name ⟨least, none⟩ := by
  rcases answered.perform_of_error rfl with told | performed
  · exact Or.inl (answered.volumes_of_told rfl told)
  · change VolumeStore.create _ name least = _ at performed
    unfold VolumeStore.create at performed
    split at performed
    · rw [← (Prod.mk.inj performed).2]
      exact Or.inl rfl
    dsimp only at performed
    split at performed
    · next unformatted =>
      rw [← (Prod.mk.inj performed).2]
      exact Or.inr ⟨unformatted, rfl⟩
    · cases performed

theorem volumes_of_failed_extend
    (answered : Answered world [.ofVolume (.extend pool name least) (.error failure)] last) :
    last.volumes.volumes = world.volumes.volumes := by
  rcases answered.perform_of_error rfl with told | performed
  · exact answered.volumes_of_told rfl told
  · change VolumeStore.extend _ name least = _ at performed
    unfold VolumeStore.extend at performed
    split at performed
    · cases performed
    · rw [← (Prod.mk.inj performed).2]

/-- A removal that was not told to fail leaves the volumes without the one it names. -/
theorem volumes_of_remove {removal : Except Failure Unit} (removes : ¬world.Fails .remove)
    (answered : Answered world [.ofVolume (.remove pool name) removal] last) :
    last.volumes.volumes = world.volumes.volumes.erase name := by
  have given := answered.eq_answer
  rw [VolumeStore.answer_of_not_failing rfl removes] at given
  change VolumeStore.remove _ name = _ at given
  unfold VolumeStore.remove at given
  split at given
  · rw [← (Prod.mk.inj given).2]
  · next absent =>
    rw [← (Prod.mk.inj given).2]
    exact (Table.erase_of_get? (by simpa [Table.contains] using absent)).symm

end Answered

/-- What could be listed before a call can be listed after it. -/
theorem Answered.lists_after {changing : List (Exchange backends)} {volumes : List Volume}
    (listing : Answered world [.ofVolume (.list pool) (.ok volumes)] middle)
    (answered : Answered middle changing last) : ¬last.Fails .list := fun fails =>
  listing.list_ok.1 ((listing.fails_iff .list).1 ((answered.fails_iff .list).1 fails))

theorem not_requires_error_of_stored {stored : StoredVolume} (lists : ¬world.Fails .list)
    (there : world.stored name = some stored)
    (requires : Pool.Requires pool name before exchanges (.error failure) after)
    (answered : Answered world exchanges last) : False := by
  rcases requires_error requires answered with unlisted | missing
  · exact lists unlisted
  · rw [there] at missing
    cases missing

/-- A volume that is discarded is gone, where it was there and could be removed. -/
theorem volumes_of_discards (lists : ¬world.Fails .list)
    (removable : ¬world.Fails .remove ∨ world.stored name = none)
    (discards : Pool.Discards pool name before exchanges after)
    (answered : Answered world exchanges last) :
    last.volumes.volumes = world.volumes.volumes.erase name := by
  cases discards with
  | unlisted failure => exact absurd answered.list_error lists
  | nothing volumes notThere =>
    rw [answered.volumes_eq_of_list]
    exact (Table.erase_of_get? (answered.stored_eq_none_of_listed notThere)).symm
  | removed volumes left removal there refreshed =>
    obtain ⟨first, listing, following⟩ := Answered.cons_iff.1 answered
    obtain ⟨second, removing, relisting⟩ := Answered.cons_iff.1 following
    have removes : ¬world.Fails .remove := by
      refine removable.resolve_right fun absent => ?_
      rw [listing.list_ok.2 name, absent] at there
      cases there
    have relisted : last.volumes.volumes = second.volumes.volumes := by
      cases refreshed with
      | listed | unlisted => exact relisting.volumes_eq_of_list
    rw [relisted, removing.volumes_of_remove fun fails => removes ((listing.fails_iff _).1 fails),
      listing.volumes_eq_of_list]

/-- What a creation that failed left behind is discarded, unless neither the formatting nor the
removal works. -/
theorem volumes_of_undone {again : Roster} {undoing : List (Exchange backends)}
    (absent : world.stored name = none)
    (creating : Answered world [.ofVolume (.create pool name least) (.error failure)] middle)
    (lists : ¬middle.Fails .list) (discards : Pool.Discards pool name before undoing again)
    (discarding : Answered middle undoing last)
    (undoes : ¬(world.Fails .format ∧ world.Fails .remove)) :
    last.volumes.volumes = world.volumes.volumes := by
  rcases creating.volumes_of_failed_create with nothing | ⟨unformatted, left⟩
  · have missing : middle.stored name = none := by
      unfold Backends.stored
      rw [nothing]
      exact absent
    rw [volumes_of_discards lists (.inr missing) discards discarding,
      Table.erase_of_get? missing, nothing]
  · have removes : ¬middle.Fails .remove := fun fails =>
      undoes ⟨unformatted, (creating.fails_iff _).1 fails⟩
    rw [volumes_of_discards lists (.inl removes) discards discarding, left, Table.erase_insert,
      Table.erase_of_get? absent]

/-! ### Making sure that a volume is there -/

/-- Where it is not possible to make sure that a volume is there, the first answer that was a
failure says why, and the volumes are as they were. -/
theorem failed_of_presents (positive : 0 < least.bytes)
    (presents : Pool.Presents pool name least before exchanges (.error failure) after)
    (answered : Answered world exchanges last) :
    exchanges.findSome? Exchange.failure? = some failure ∧
      (¬(world.Fails .format ∧ world.Fails .remove) →
        last.volumes.volumes = world.volumes.volumes) := by
  cases presents with
  | nonpositive nonpositive => exact absurd positive (Int.not_lt.2 nonpositive)
  | unlisted => exact ⟨rfl, fun _ => answered.volumes_eq_of_list⟩
  | createdUnseen volumes notThere required =>
    obtain ⟨first, listing, following⟩ := Answered.cons_iff.1 answered
    obtain ⟨second, creating, relisting⟩ := Answered.cons_iff.1 following
    exact (not_requires_error_of_stored (listing.lists_after creating) creating.create_ok.2 required
      relisting).elim
  | uncreated volumes _ notThere discarded =>
    obtain ⟨first, listing, following⟩ := Answered.cons_iff.1 answered
    obtain ⟨second, creating, discarding⟩ := Answered.cons_iff.1 following
    refine ⟨rfl, fun undoes => ?_⟩
    have missing : first.stored name = none :=
      ((listing.listed name).1).trans (listing.stored_eq_none_of_listed notThere)
    rw [volumes_of_undone missing creating (listing.lists_after creating) discarded discarding
      (by rwa [listing.fails_iff, listing.fails_iff]), listing.volumes_eq_of_list]
  | extendedUnseen volumes existing there smaller required =>
    obtain ⟨first, listing, following⟩ := Answered.cons_iff.1 answered
    obtain ⟨second, extending, relisting⟩ := Answered.cons_iff.1 following
    obtain ⟨stored, _, grown⟩ := extending.extend_ok
    exact (not_requires_error_of_stored (listing.lists_after extending) grown required
      relisting).elim
  | unextended volumes existing _ there smaller =>
    obtain ⟨first, listing, extending⟩ := Answered.cons_iff.1 answered
    refine ⟨rfl, fun _ => ?_⟩
    rw [extending.volumes_of_failed_extend, listing.volumes_eq_of_list]

/-- What is stored for a volume once it was made sure to be there with a size. -/
def settledFor (least : Size) : Option StoredVolume → StoredVolume
  | none => ⟨least, none⟩
  | some stored =>
    if stored.size.bytes < least.bytes then { stored with size := least } else stored

/-- What is done to make sure that a volume is there with a size. -/
def actionFor (least : Size) : Option StoredVolume → Pool.Action
  | none => .created
  | some stored => if stored.size.bytes < least.bytes then .extended else .unchanged

/-- A volume that was changed is listed as it is stored then. -/
theorem relisted_of_requires {stored : StoredVolume} {found : Volume}
    {changing : List (Exchange backends)} (changed : Answered world changing middle)
    (written : middle.volumes.volumes = world.volumes.volumes.insert name stored)
    (required : Pool.Requires pool name before exchanges (.ok found) after)
    (answered : Answered middle exchanges last) :
    found = world.volumes.listed name stored ∧
      last.volumes.volumes = world.volumes.volumes.insert name stored := by
  obtain ⟨_, held, there, rfl⟩ := requires_ok required answered
  have same : held = stored := by
    unfold Backends.stored at there
    rw [written, Table.get?_insert_self] at there
    exact (Option.some.inj there).symm
  refine ⟨?_, ?_⟩
  · unfold VolumeStore.listed
    rw [same, changed.sameSetup.group]
  · rw [← written]
    exact Answered.volumes_eq (requires_stored_eq required answered)

/-- Where it comes out well to make sure that a volume is there, it is stored with the size, or with
the larger one that it had, and that is what is reported. -/
theorem settled_of_converses {presence : Pool.Presence}
    (conversation :
      Converses (Pool.ensurePresent pool name least) before exchanges (.ok presence) after)
    (answered : Answered world exchanges last) :
    let stored := settledFor least (world.stored name)
    presence = ⟨world.volumes.listed name stored, actionFor least (world.stored name)⟩ ∧
      last.volumes.volumes = world.volumes.volumes.insert name stored := by
  have positive : 0 < least.bytes := by
    refine Int.not_le.1 fun nonpositive => ?_
    cases (Pool.refused_of_nonpositive nonpositive conversation).2
  -- A call that changed the volume reports the record of the listing after it; one that did not
  -- reports the record that it found.
  cases Pool.presents_of_converses conversation with
  | created volumes notThere required =>
    obtain ⟨first, listing, following⟩ := Answered.cons_iff.1 answered
    obtain ⟨second, creating, relisting⟩ := Answered.cons_iff.1 following
    have written := creating.volumes_of_create.2
    rw [listing.volumes_eq_of_list] at written
    rw [listing.stored_eq_none_of_listed notThere]
    obtain ⟨rfl, kept⟩ := relisted_of_requires (Answered.cons_iff.2 ⟨_, listing, creating⟩) written
      required relisting
    exact ⟨rfl, kept⟩
  | extended volumes existing there smaller required =>
    obtain ⟨first, listing, following⟩ := Answered.cons_iff.1 answered
    obtain ⟨second, extending, relisting⟩ := Answered.cons_iff.1 following
    obtain ⟨stored, held, written⟩ := extending.volumes_of_extend
    rw [listing.volumes_eq_of_list] at written
    rw [(listing.listed name).1] at held
    rw [listing.size_of_listed there held] at smaller
    obtain ⟨rfl, kept⟩ := relisted_of_requires (Answered.cons_iff.2 ⟨_, listing, extending⟩) written
      required relisting
    rw [held]
    unfold settledFor actionFor
    dsimp only
    rw [if_pos smaller, if_pos smaller]
    exact ⟨rfl, kept⟩
  | unchanged volumes existing there =>
    have enough := Pool.enough_of_single_listing positive there conversation
    have shown := answered.list_ok.2 name
    rw [there] at shown
    obtain ⟨stored, held, rfl⟩ := Option.map_eq_some_iff.1 shown.symm
    have large : ¬stored.size.bytes < least.bytes := Int.not_lt.2 enough
    rw [held]
    unfold settledFor actionFor
    dsimp only
    rw [if_neg large, if_neg large, Table.insert_of_get? held]
    exact ⟨rfl, answered.volumes_eq_of_list⟩

/-- To make sure that a volume is there is all or nothing, whatever was told to fail. A failure is
that of the first step that failed, and the volumes are as they were, unless neither the formatting
nor the removal works. Otherwise the volume is stored as it is reported, and the others are as they
were. -/
theorem ensurePresent_all_or_nothing (world : Backends) (roster : Roster) (pool : ThinPool)
    (name : String) (least : Size) :
    let held := world.hold roster (Pool.ensurePresent pool name least)
    let heard := world.heard ((Pool.ensurePresent pool name least).run roster)
    (∀ failure, held.1.1 = .error failure →
      Pool.firstFailure? least heard = some failure ∧
        (¬(world.Fails .format ∧ world.Fails .remove) →
          held.2.volumes.volumes = world.volumes.volumes)) ∧
      ∀ presence, held.1.1 = .ok presence →
        (∀ other, other ≠ name → held.2.stored other = world.stored other) ∧
          held.2.shown name = some presence.volume := by
  intro held heard
  obtain ⟨conversation, answered⟩ :=
    world.converses_hold roster (Pool.ensurePresent pool name least)
  refine ⟨fun failure failed => ?_, fun presence well => ?_⟩
  · rw [failed] at conversation
    unfold Pool.firstFailure?
    by_cases nonpositive : least.bytes ≤ 0
    · obtain ⟨none, refused⟩ := Pool.refused_of_nonpositive nonpositive conversation
      cases refused
      rw [if_pos nonpositive]
      rw [none] at answered
      refine ⟨rfl, fun _ => ?_⟩
      exact Answered.volumes_eq fun other => answered.stored_eq (List.forall_mem_nil _)
    · rw [if_neg nonpositive]
      exact failed_of_presents (Int.not_le.1 nonpositive) (Pool.presents_of_converses conversation)
        answered
  · rw [well] at conversation
    obtain ⟨rfl, written⟩ := settled_of_converses conversation answered
    constructor
    · intro other different
      unfold Backends.stored
      rw [written]
      exact Table.get?_insert_other _ _ different
    · exact (shows_of_presents (Pool.presents_of_converses conversation) answered).2

/-- One volume of one gibibyte, in front of which operations fail. -/
def oneVolume (failing : List VolumeOp) : Backends :=
  ⟨{ (VolumeStore.ofGroup "vg0").withVolume "pg" ⟨1073741824⟩ with failing }, .empty⟩

/-- What comes of making sure that a volume is there beside that one. -/
def besideOne (failing : List VolumeOp) (name : String) (least : Size) :
    (Except Failure Pool.Presence × Roster) × Backends :=
  (oneVolume failing).hold .empty (Pool.ensurePresent ⟨"vg0", "thinpool"⟩ name least)

/-- A volume that cannot be formatted is gone again, and the other one can still be extended. -/
theorem removed_after_failed_format :
    ((besideOne [.format] "db" ⟨4096⟩).1.1.isOk = false ∧
        (besideOne [.format] "db" ⟨4096⟩).2.volumes.calls.length = 5 ∧
        (besideOne [.format] "db" ⟨4096⟩).2.volumes.volumes =
          (oneVolume [.format]).volumes.volumes) ∧
      ∃ presence, (besideOne [.format] "pg" ⟨2147483648⟩).1.1 = .ok presence ∧
        presence.action = .extended ∧
        (besideOne [.format] "pg" ⟨2147483648⟩).2.shown "pg" = some presence.volume ∧
        (besideOne [.format] "pg" ⟨2147483648⟩).2.stored "db" =
          (oneVolume [.format]).stored "db" := by
  have refused : (besideOne [.format] "db" ⟨4096⟩).1.1.isOk = false := by decide +kernel
  have calls : (besideOne [.format] "db" ⟨4096⟩).2.volumes.calls.length = 5 := by decide +kernel
  have well : (besideOne [.format] "pg" ⟨2147483648⟩).1.1 =
      .ok ⟨(oneVolume []).volumes.listed "pg" ⟨⟨2147483648⟩, none⟩, .extended⟩ := by
    decide +kernel
  unfold besideOne at *
  constructor
  · refine ⟨refused, calls, ?_⟩
    have provided := ensurePresent_all_or_nothing (oneVolume [.format]) .empty ⟨"vg0", "thinpool"⟩
      "db" ⟨4096⟩
    dsimp only at provided
    generalize (oneVolume [.format]).hold _ _ = held at refused provided
    obtain ⟨⟨_ | presence, after⟩, last⟩ := held
    · exact (provided.1 _ rfl).2 (by unfold Backends.Fails; decide)
    · cases refused
  · obtain ⟨kept, shown⟩ := (ensurePresent_all_or_nothing (oneVolume [.format]) .empty
      ⟨"vg0", "thinpool"⟩ "pg" ⟨2147483648⟩).2 _ well
    exact ⟨_, well, rfl, shown, kept "db" (by decide)⟩

end Memory

end NodeAgent
