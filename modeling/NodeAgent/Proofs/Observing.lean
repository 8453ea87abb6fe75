/-
This file shows that every change follows an observation. Whatever the volume tools answer, an
operation asks for a change of a volume only right after it looked at the volume in the way that
this change needs: at a listing before it creates, extends or removes, and at the mount of the
device before it mounts or unmounts.
-/

import NodeAgent.Proofs.Questions
import NodeAgent.Proofs.Restoring

namespace NodeAgent

open Operation

/-- Whether a question asks for a change of a volume. -/
def Call.IsChange : Call → Prop
  | volume (.create _ _ _) | volume (.extend _ _ _) | volume (.remove _ _)
  | volume (.mount _ _) | volume (.unmount _) => True
  | _ => False

/-- Whether a question asks for room for a volume: for a new one, or for more of it. -/
def Call.allocates : Call → Bool
  | volume (.create _ _ _) | volume (.extend _ _ _) => true
  | _ => false

/-- Whether a question asks for the removal of a volume. -/
def Call.IsRemoval : Call → Prop
  | volume (.remove _ _) => True
  | _ => False

/-- An observation calls for a change. -/
inductive Justifies : Exchange backends → Call → Prop where
  | create {pool name size} {volumes : List Volume} (positive : 0 < size.bytes)
      (notThere : (Pool.rosterOf volumes).get? name = none) :
      Justifies (.ofVolume (.list pool) (.ok volumes)) (.volume (.create pool name size))
  | extend {pool name size existing} {volumes : List Volume}
      (there : (Pool.rosterOf volumes).get? name = some existing)
      (smaller : existing.size.bytes < size.bytes) :
      Justifies (.ofVolume (.list pool) (.ok volumes)) (.volume (.extend pool name size))
  | remove {pool name existing} {volumes : List Volume}
      (there : (Pool.rosterOf volumes).get? name = some existing) :
      Justifies (.ofVolume (.list pool) (.ok volumes)) (.volume (.remove pool name))
  | mount {device target} :
      Justifies (.ofVolume (.queryMount device) (.ok none)) (.volume (.mount device target))
  | unmount {device place} :
      Justifies (.ofVolume (.queryMount device) (.ok (some place))) (.volume (.unmount device))

/-- Right before each change stands an observation that calls for it. -/
def Justified (exchanges : List (Exchange backends)) : Prop :=
  ∀ ⦃early change late⦄, exchanges = early ++ change :: late → Call.IsChange change.question →
    ∃ before observation, early = before ++ [observation] ∧ Justifies observation change.question

/-! ### Records put together -/

/-- An element of two lists in a row stands in the first or in the second. -/
theorem split_cases_of_append {Element : Type} {first second early late : List Element}
    {element : Element} (whole : first ++ second = early ++ element :: late) :
    (∃ rest, first = early ++ element :: rest ∧ late = rest ++ second) ∨
      ∃ rest, early = first ++ rest ∧ second = rest ++ element :: late := by
  rcases List.append_eq_append_iff.1 whole with ⟨rest, same, split⟩ | ⟨rest, same, split⟩
  · exact Or.inr ⟨rest, same, split⟩
  · cases rest with
    | nil => exact Or.inr ⟨[], by rw [same, List.append_nil, List.append_nil], split.symm⟩
    | cons head rest =>
      obtain ⟨rfl, rfl⟩ := List.cons.inj split
      exact Or.inl ⟨rest, same, rfl⟩

/-- Where only one element of a list has a property, that is where it stands. -/
theorem eq_of_split {Element : Type} (property : Element → Prop)
    {front back early late : List Element} {only element : Element}
    (whole : front ++ only :: back = early ++ element :: late) (holds : property element)
    (before : ∀ other ∈ front, ¬property other) (after : ∀ other ∈ back, ¬property other) :
    early = front ∧ element = only ∧ late = back := by
  rcases split_cases_of_append whole with ⟨rest, rfl, _⟩ | ⟨rest, rfl, split⟩
  · exact absurd holds (before element (List.mem_append_right _ List.mem_cons_self))
  · cases rest with
    | nil =>
      obtain ⟨rfl, rfl⟩ := List.cons.inj split
      exact ⟨List.append_nil front, rfl, rfl⟩
    | cons head rest =>
      obtain ⟨rfl, rfl⟩ := List.cons.inj split
      exact absurd holds (after element (List.mem_append_right _ List.mem_cons_self))

namespace Justified

variable {exchanges first second : List (Exchange backends)}

theorem of_unchanging (none : ∀ exchange ∈ exchanges, ¬Call.IsChange exchange.question) :
    Justified exchanges := by
  rintro early change late rfl changes
  exact absurd changes (none change (List.mem_append_right _ List.mem_cons_self))

theorem of_asksOnly {State Result : Type} {operation : Operation State Result}
    {before after : State} {outcome : Except Failure Result}
    (asksOnly : AsksOnly (¬Call.IsChange ·) operation)
    (conversation : Converses operation before exchanges outcome after) : Justified exchanges :=
  of_unchanging (asksOnly conversation)

theorem nil : Justified [] :=
  .of_unchanging fun _ member => nomatch member

theorem single {exchange : Exchange backends} (unchanging : ¬Call.IsChange exchange.question) :
    Justified [exchange] :=
  .of_unchanging (List.forall_mem_singleton.2 unchanging)

theorem append (begun : Justified first) (ended : Justified second) :
    Justified (first ++ second) := by
  intro early change late whole changes
  rcases split_cases_of_append whole with ⟨rest, rfl, rfl⟩ | ⟨rest, rfl, split⟩
  · exact begun rfl changes
  · obtain ⟨before, observation, rfl, justifies⟩ := ended split changes
    exact ⟨first ++ before, observation, (List.append_assoc ..).symm, justifies⟩

/-- A change right after an observation that calls for it. -/
theorem pair {observation : Exchange backends} {call : Call}
    (justifies : Justifies observation call) (answer : call.Answer) :
    Justified [observation, ⟨call, answer⟩] := by
  intro early change late split changes
  rcases early with _ | ⟨head, _ | ⟨next, early⟩⟩
  · obtain ⟨rfl, _⟩ := List.cons.inj split
    cases justifies <;> exact absurd changes id
  · obtain ⟨rfl, rest⟩ := List.cons.inj split
    obtain ⟨rfl, _⟩ := List.cons.inj rest
    exact ⟨[], observation, rfl, justifies⟩
  · have nothing := (List.cons.inj (List.cons.inj split).2).2
    exact absurd nothing.symm (List.append_ne_nil_of_right_ne_nil _ (List.cons_ne_nil _ _))

end Justified

/-! ### The pool -/

namespace Pool

variable {pool : ThinPool} {name : String} {target : Path} {least : Size}
  {before after : Roster} {exchanges : List (Exchange backends)}

/-- How making sure that a volume is not there can go. -/
inductive Removes (pool : ThinPool) (name : String) (before : Roster) :
    List (Exchange backends) → Except Failure Unit → Roster → Prop where
  | unlisted (failure : Failure) :
      Removes pool name before [.ofVolume (.list pool) (.error failure)] (.error failure) before
  | absent (volumes : List Volume) (notThere : (rosterOf volumes).get? name = none) :
      Removes pool name before [.ofVolume (.list pool) (.ok volumes)] (.ok ()) (rosterOf volumes)
  | unremoved (volumes : List Volume) (existing : Volume) (failure : Failure)
      (there : (rosterOf volumes).get? name = some existing) :
      Removes pool name before
        [.ofVolume (.list pool) (.ok volumes), .ofVolume (.remove pool name) (.error failure)]
        (.error failure) (rosterOf volumes)
  | removed {again outcome after} (volumes : List Volume) (existing : Volume)
      (there : (rosterOf volumes).get? name = some existing)
      (refreshed : Refreshes pool (rosterOf volumes) again outcome after) :
      Removes pool name before
        (.ofVolume (.list pool) (.ok volumes) :: .ofVolume (.remove pool name) (.ok ()) :: again)
        outcome after

theorem removes_of_converses {outcome : Except Failure Unit}
    (conversation : Converses (ensureAbsent pool name) before exchanges outcome after) :
    Removes pool name before exchanges outcome after := by
  rcases converses_bind_iff.1 conversation with
    ⟨looking, deciding, found, seen, rfl, looked, decided⟩ | ⟨failure, rfl, looked⟩
  · generalize same : (Except.ok found : Except Failure (Option Volume)) = result at looked
    cases finds_of_converses looked with
    | unlisted failure => cases same
    | listed volumes =>
      cases same
      generalize there : (rosterOf volumes).get? name = entry at decided
      cases entry with
      | none =>
        obtain ⟨rfl, rfl, rfl⟩ := converses_pure_iff.1 decided
        exact .absent volumes there
      | some existing =>
        rcases converses_bind_iff.1 decided with
          ⟨_, again, _, _, rfl, asked, refreshed⟩ | ⟨failure, rfl, asked⟩
        · obtain ⟨rfl, rfl⟩ := converses_askVolume_iff.1 asked
          exact .removed volumes existing there (refreshes_of_converses refreshed)
        · obtain ⟨rfl, rfl⟩ := converses_askVolume_iff.1 asked
          exact .unremoved volumes existing failure there
  · cases finds_of_converses looked with
    | unlisted => exact .unlisted failure

theorem Refreshes.justified {outcome : Except Failure Unit}
    (refreshes : Refreshes pool before exchanges outcome after) : Justified exchanges := by
  cases refreshes with
  | listed | unlisted => exact .single id

theorem Requires.justified {outcome : Except Failure Volume}
    (requires : Requires pool name before exchanges outcome after) : Justified exchanges := by
  cases requires with
  | found | missing | unlisted => exact .single id

theorem Discards.justified (discards : Discards pool name before exchanges after) :
    Justified exchanges := by
  cases discards with
  | unlisted | nothing => exact .single id
  | removed volumes left removal there refreshed =>
    exact (Justified.pair (.remove there) removal).append refreshed.justified

theorem Presents.justified {outcome : Except Failure Presence} (positive : 0 < least.bytes)
    (presents : Presents pool name least before exchanges outcome after) :
    Justified exchanges := by
  cases presents with
  | nonpositive => exact .nil
  | unlisted | unchanged => exact .single id
  | created volumes notThere required | createdUnseen volumes notThere required =>
    exact (Justified.pair (.create positive notThere) (.ok ())).append required.justified
  | uncreated volumes failure notThere discarded =>
    exact (Justified.pair (.create positive notThere) (.error failure)).append
      discarded.justified
  | extended volumes existing there smaller required
  | extendedUnseen volumes existing there smaller required =>
    exact (Justified.pair (.extend there smaller) (.ok ())).append required.justified
  | unextended volumes existing failure there smaller =>
    exact Justified.pair (.extend there smaller) (.error failure)

/-- Nothing is asked for the sake of a size that is not positive. -/
theorem justified_of_ensurePresent {outcome : Except Failure Presence}
    (conversation : Converses (ensurePresent pool name least) before exchanges outcome after) :
    Justified exchanges := by
  by_cases nonpositive : least.bytes ≤ 0
  · unfold ensurePresent at conversation
    rw [if_pos nonpositive] at conversation
    obtain ⟨rfl, _⟩ := converses_throw_iff.1 conversation
    exact .nil
  · exact (presents_of_converses conversation).justified (Int.not_le.1 nonpositive)

theorem Removes.justified {outcome : Except Failure Unit}
    (removes : Removes pool name before exchanges outcome after) : Justified exchanges := by
  cases removes with
  | unlisted | absent => exact .single id
  | unremoved volumes existing failure there =>
    exact Justified.pair (.remove there) (.error failure)
  | removed volumes existing there refreshed =>
    exact (Justified.pair (.remove there) (.ok ())).append refreshed.justified

/-- A look at a mount, after a volume was looked up, is no change. -/
theorem Requires.justified_query {outcome : Except Failure Volume} {device : Path}
    {answer : Except Failure (Option Path)}
    (requires : Requires pool name before exchanges outcome after) :
    Justified (exchanges ++ [.ofVolume (.queryMount device) answer]) :=
  requires.justified.append (.single id)

theorem Mounts.justified {outcome : Except Failure Volume}
    (mounts : Mounts pool name target before exchanges outcome after) : Justified exchanges := by
  cases mounts with
  | missing required => exact required.justified
  | unqueried _ required | already required _ | elsewhere required _ =>
    exact required.justified_query
  | refused failure required =>
    exact required.justified.append (Justified.pair .mount (.error failure))
  | mounted required listed =>
    exact required.justified.append ((Justified.pair .mount (.ok ())).append listed.justified)

theorem Unmounts.justified {outcome : Except Failure Volume}
    (unmounts : Unmounts pool name before exchanges outcome after) : Justified exchanges := by
  cases unmounts with
  | missing required => exact required.justified
  | unqueried _ required | already required => exact required.justified_query
  | refused place failure required =>
    exact required.justified.append (Justified.pair .unmount (.error failure))
  | unmounted place required listed =>
    exact required.justified.append ((Justified.pair .unmount (.ok ())).append listed.justified)

/-- What one operation on a pool asked and was answered, whichever operation it was. -/
inductive Operates : List (Exchange backends) → Prop where
  | opening {path : String} {before exchanges outcome after}
      (conversation : Converses (openPool path) before exchanges outcome after) :
      Operates exchanges
  | listing {pool before exchanges outcome after}
      (conversation : Converses (list pool) before exchanges outcome after) : Operates exchanges
  | finding {pool name before exchanges outcome after}
      (conversation : Converses (find pool name) before exchanges outcome after) :
      Operates exchanges
  | presenting {pool name least before exchanges outcome after}
      (conversation : Converses (ensurePresent pool name least) before exchanges outcome after) :
      Operates exchanges
  | removing {pool name before exchanges outcome after}
      (conversation : Converses (ensureAbsent pool name) before exchanges outcome after) :
      Operates exchanges
  | mounting {pool name target before exchanges outcome after}
      (conversation : Converses (ensureMounted pool name target) before exchanges outcome after) :
      Operates exchanges
  | unmounting {pool name before exchanges outcome after}
      (conversation : Converses (ensureUnmounted pool name) before exchanges outcome after) :
      Operates exchanges

theorem asksOnly_openPool {path : String} {allowed : Call → Prop}
    (looks : ∀ pool, allowed (.volume (.isThin pool)) ∧ allowed (.volume (.list pool))) :
    AsksOnly allowed (openPool path) := by
  refine asksOnly_bind (asksOnly_fromResult _) fun pool => ?_
  refine asksOnly_bind (asksOnly_askVolume (looks pool).1) fun thin => ?_
  cases thin with
  | true => exact asksOnly_bind (asksOnly_refresh (looks pool).2) fun _ => asksOnly_pure _
  | false =>
    exact asksOnly_bind (asksOnly_throw _) fun _ =>
      asksOnly_bind (asksOnly_refresh (looks pool).2) fun _ => asksOnly_pure _

theorem asksOnly_list {allowed : Call → Prop} (lists : allowed (.volume (.list pool))) :
    AsksOnly allowed (list pool) :=
  asksOnly_bind (asksOnly_refresh lists) fun _ => asksOnly_bind asksOnly_get fun _ =>
    asksOnly_pure _

/-- Every change that an operation on a pool asks for follows an observation. -/
theorem Operates.justified (operates : Operates exchanges) : Justified exchanges := by
  cases operates with
  | opening conversation =>
    exact .of_asksOnly (asksOnly_openPool fun _ => ⟨id, id⟩) conversation
  | listing conversation => exact .of_asksOnly (asksOnly_list id) conversation
  | finding conversation => exact .of_asksOnly (asksOnly_find id) conversation
  | presenting conversation => exact justified_of_ensurePresent conversation
  | removing conversation => exact (removes_of_converses conversation).justified
  | mounting conversation => exact (mounts_of_converses conversation).justified
  | unmounting conversation => exact (unmounts_of_converses conversation).justified

/-! ### How often and what for -/

/-- How often room for a volume was asked for. -/
def allocations (exchanges : List (Exchange backends)) : Nat :=
  (callsOf exchanges).countP Call.allocates

theorem allocations_of_asksOnly {State Result : Type} {operation : Operation State Result}
    {before after : State} {outcome : Except Failure Result}
    (asksOnly : AsksOnly (fun call => call.allocates = false) operation)
    (conversation : Converses operation before exchanges outcome after) :
    allocations exchanges = 0 := by
  refine List.countP_eq_zero.2 fun call member => ?_
  obtain ⟨exchange, asked, rfl⟩ := List.mem_map.1 member
  rw [asksOnly conversation exchange asked]
  exact Bool.false_ne_true

theorem allocates_of_isMounting (call : Call) (mounting : call.IsMounting name) :
    call.allocates = false := by
  match call, mounting with
  | .volume (.list _), _ | .volume (.queryMount _), _ | .volume (.mount _ _), _
  | .volume (.unmount _), _ => rfl

theorem Presents.allocations_le_one {outcome : Except Failure Presence}
    (presents : Presents pool name least before exchanges outcome after) :
    allocations exchanges ≤ 1 := by
  cases presents with
  | nonpositive | unlisted | unchanged => exact Nat.zero_le 1
  | unextended => exact Nat.le_refl 1
  | created _ _ required | createdUnseen _ _ required | extended _ _ _ _ required
  | extendedUnseen _ _ _ _ required => cases required <;> exact Nat.le_refl 1
  | uncreated _ _ _ discarded =>
    cases discarded with
    | unlisted | nothing => exact Nat.le_refl 1
    | removed _ _ _ _ refreshed => cases refreshed <;> exact Nat.le_refl 1

theorem Removes.allocations_eq_zero {outcome : Except Failure Unit}
    (removes : Removes pool name before exchanges outcome after) : allocations exchanges = 0 := by
  cases removes with
  | unlisted | absent | unremoved => rfl
  | removed _ _ _ refreshed => cases refreshed <;> rfl

/-- An operation on a pool asks for room for a volume at most once. -/
theorem Operates.allocations_le_one (operates : Operates exchanges) :
    allocations exchanges ≤ 1 := by
  have none : allocations exchanges = 0 → allocations exchanges ≤ 1 := by
    intro zero
    rw [zero]
    exact Nat.zero_le 1
  cases operates with
  | presenting conversation => exact (presents_of_converses conversation).allocations_le_one
  | removing conversation => exact none (removes_of_converses conversation).allocations_eq_zero
  | opening conversation =>
    exact none (allocations_of_asksOnly (asksOnly_openPool fun _ => ⟨rfl, rfl⟩) conversation)
  | listing conversation => exact none (allocations_of_asksOnly (asksOnly_list rfl) conversation)
  | finding conversation => exact none (allocations_of_asksOnly (asksOnly_find rfl) conversation)
  | mounting conversation =>
    exact none (allocations_of_asksOnly (asksOnly_ensureMounted.mono allocates_of_isMounting)
      conversation)
  | unmounting conversation =>
    exact none (allocations_of_asksOnly (asksOnly_ensureUnmounted.mono allocates_of_isMounting)
      conversation)

theorem Refreshes.eq_singleton {outcome : Except Failure Unit}
    (refreshes : Refreshes pool before exchanges outcome after) :
    ∃ answer, exchanges = [.ofVolume (.list pool) answer] := by
  cases refreshes with
  | listed volumes => exact ⟨.ok volumes, rfl⟩
  | unlisted failure => exact ⟨.error failure, rfl⟩

theorem Requires.eq_singleton {outcome : Except Failure Volume}
    (requires : Requires pool name before exchanges outcome after) :
    ∃ answer, exchanges = [.ofVolume (.list pool) answer] := by
  cases requires with
  | found volumes | missing volumes => exact ⟨.ok volumes, rfl⟩
  | unlisted failure => exact ⟨.error failure, rfl⟩

/-- Making sure that a volume is there asks for no removal, or the volume was not listed, its
creation failed, and it was listed then. -/
theorem Presents.removal_cases {outcome : Except Failure Presence}
    (presents : Presents pool name least before exchanges outcome after) :
    (∀ exchange ∈ exchanges, ¬Call.IsRemoval exchange.question) ∨
      ∃ volumes failure again left removal answer,
        exchanges = [.ofVolume (.list pool) (.ok volumes),
          .ofVolume (.create pool name least) (.error failure),
          .ofVolume (.list pool) (.ok again), .ofVolume (.remove pool name) removal,
          .ofVolume (.list pool) answer] ∧
        (rosterOf volumes).get? name = none ∧ (rosterOf again).get? name = some left := by
  cases presents with
  | nonpositive => exact Or.inl fun exchange member => nomatch member
  | unlisted | unchanged => exact Or.inl (List.forall_mem_singleton.2 id)
  | unextended => exact Or.inl (List.forall_mem_cons.2 ⟨id, List.forall_mem_singleton.2 id⟩)
  | created _ _ required | createdUnseen _ _ required | extended _ _ _ _ required
  | extendedUnseen _ _ _ _ required =>
    obtain ⟨answer, rfl⟩ := required.eq_singleton
    exact Or.inl (List.forall_mem_cons.2 ⟨id, List.forall_mem_cons.2 ⟨id,
      List.forall_mem_singleton.2 id⟩⟩)
  | uncreated volumes failure notThere discarded =>
    cases discarded with
    | unlisted | nothing =>
      exact Or.inl (List.forall_mem_cons.2 ⟨id, List.forall_mem_cons.2 ⟨id,
        List.forall_mem_singleton.2 id⟩⟩)
    | removed again left removal there refreshed =>
      obtain ⟨answer, rfl⟩ := refreshed.eq_singleton
      exact Or.inr ⟨volumes, failure, again, left, removal, answer, rfl, notThere, there⟩

/-- What came before a removal that was asked for to make sure that a volume is there. -/
theorem Presents.before_removal {outcome : Except Failure Presence}
    {early late : List (Exchange backends)} {group : ThinPool} {removed : String}
    {answer : Except Failure Unit}
    (presents : Presents pool name least before exchanges outcome after)
    (split : exchanges = early ++ .ofVolume (.remove group removed) answer :: late) :
    group = pool ∧ removed = name ∧ ∃ volumes failure again left,
      early = [.ofVolume (.list pool) (.ok volumes),
        .ofVolume (.create pool name least) (.error failure),
        .ofVolume (.list pool) (.ok again)] ∧
      (rosterOf volumes).get? name = none ∧ (rosterOf again).get? name = some left := by
  rcases presents.removal_cases with
    none | ⟨volumes, failure, again, left, removal, last, rfl, notThere, there⟩
  · rw [split] at none
    exact absurd trivial (none _ (List.mem_append_right _ List.mem_cons_self))
  · have whole : [.ofVolume (.list pool) (.ok volumes),
        .ofVolume (.create pool name least) (.error failure), .ofVolume (.list pool) (.ok again)] ++
          .ofVolume (.remove pool name) removal :: [.ofVolume (.list pool) last] =
        early ++ .ofVolume (.remove group removed) answer :: late := split
    obtain ⟨rfl, same, _⟩ := eq_of_split
      (fun other : Exchange backends => Call.IsRemoval other.question) whole trivial
      (List.forall_mem_cons.2 ⟨id, List.forall_mem_cons.2 ⟨id, List.forall_mem_singleton.2 id⟩⟩)
      (List.forall_mem_singleton.2 id)
    cases congrArg Exchange.question same
    exact ⟨rfl, rfl, volumes, failure, again, left, rfl, notThere, there⟩

end Pool

/-! ### Restoring, publishing and releasing -/

theorem Restore.Restores.justified {pool : ThinPool} {volume : String} {source : Source}
    {volumePoint snapshotPoint : Path} {before after : Roster}
    {exchanges : List (Exchange backends)} {outcome : Except Failure Unit}
    (restores : Restores pool volume source volumePoint snapshotPoint before exchanges outcome
      after) : Justified exchanges := by
  cases restores with
  | unstaged refused => exact (Pool.mounts_of_converses refused).justified
  | unserved failure staged released =>
    exact (Pool.mounts_of_converses staged).justified.append
      ((Justified.single id).append (Pool.unmounts_of_converses released).justified)
  | copied content copy release staged released =>
    refine (Pool.mounts_of_converses staged).justified.append ((Justified.single id).append ?_)
    exact (Justified.single id).append
      ((Justified.single id).append (Pool.unmounts_of_converses released).justified)

namespace Agent

variable {settings : Settings} {now : Instant} {volume : String} {target : Path}
  {agent after : Agent} {exchanges : List (Exchange backends)}

theorem Fills.justified {due : Bool} {before last : Roster} {how : Filling}
    (fills : Fills settings now volume before due exchanges how last) : Justified exchanges := by
  have searched : ∀ {asking : List (Exchange backends)} {selected : Option Source},
      Dialogue.Held (Selection.select volume settings.destinations now) asking selected →
        Justified asking := by
    intro asking selected held
    refine .of_unchanging fun exchange member => ?_
    obtain ⟨destination, asked⟩ := Selection.mem_of_select held exchange member
    rw [asked]
    exact id
  cases fills with
  | unfilled => exact .nil
  | nothingFound selected => exact searched selected
  | restored selected restoration | broken selected restoration =>
    exact (searched selected).append (Restore.restores_of_converses restoration).justified

theorem Publishes.justified {capacity : Option Int} {progress : Progress}
    {outcome : Except Failure Published}
    (course : Publishes settings now volume target capacity agent exchanges progress outcome
      after) : Justified exchanges := by
  cases course with
  | refused => exact .nil
  | absent valid present | alreadyMounted valid present there =>
    exact Pool.justified_of_ensurePresent present
  | broken valid present notThere filled failed =>
    exact (Pool.justified_of_ensurePresent present).append filled.justified
  | unmounted valid present notThere filled settled mounting
  | mounted valid present notThere filled settled mounting =>
    exact ((Pool.justified_of_ensurePresent present).append filled.justified).append
      (Pool.mounts_of_converses mounting).justified

theorem Departs.justified {before last : Roster} {reason : Option String}
    {outcome : Except Failure Released}
    (departs : Departs settings now volume before reason exchanges outcome last) :
    Justified exchanges := by
  cases departs with
  | stuck left | skipped left => exact (Pool.unmounts_of_converses left).justified
  | unstaged left staged =>
    exact (Pool.unmounts_of_converses left).justified.append
      (Pool.mounts_of_converses staged).justified
  | @backedUp _ _ _ _ _ _ backing _ _ _ _ left staged backed freed =>
    have saved : Justified backing := by
      refine .of_unchanging fun exchange member => ?_
      obtain ⟨destination, asked⟩ := Backup.mem_of_backupAll backed exchange member
      rw [asked]
      exact id
    exact (Pool.unmounts_of_converses left).justified.append
      ((Pool.mounts_of_converses staged).justified.append
        (saved.append (Pool.unmounts_of_converses freed).justified))

theorem Releases.justified {outcome : Except Failure Released}
    (course : Releases settings now volume target agent exchanges outcome after) :
    Justified exchanges := by
  cases course with
  | refused => exact .nil
  | unlisted valid looked | missing valid looked =>
    exact .of_asksOnly (Pool.asksOnly_find id) looked
  | departed valid looked departs =>
    exact (Justified.of_asksOnly (Pool.asksOnly_find id) looked).append departs.justified

end Agent

end NodeAgent
