/-
This file says that the table of serving programs is kept faithfully. Whatever the host answers and
in whichever order snapshots are mounted and unmounted, the table has an entry for a mount point
exactly where a mount there came out well after the last unmount there that did, and the entry is a
program that was started for it. A call that fails leaves the table as it is. A mount always ends,
after a bounded number of looks for its content.
-/

import NodeAgent.Proofs.Awaiting
import NodeAgent.Proofs.Blaming
import NodeAgent.Proofs.Paths

namespace NodeAgent

open Operation

/-! ### Dialogues end -/

namespace Dialogue

variable {ports : Interface} {Result : Type}

/-- After what was said before, these exchanges have the answers of somebody who remembers it. -/
def Replies (reply : List (Exchange ports) → (asked : ports.Question) → ports.Answer asked) :
    List (Exchange ports) → List (Exchange ports) → Prop
  | _, [] => True
  | before, exchange :: rest =>
    exchange.answer = reply before exchange.question ∧ Replies reply (before ++ [exchange]) rest

/-- Whoever answers, a dialogue ends. -/
theorem exists_held_replies
    (reply : List (Exchange ports) → (asked : ports.Question) → ports.Answer asked)
    (before : List (Exchange ports)) (dialogue : Dialogue ports Result) :
    ∃ heard result, Held dialogue heard result ∧ Replies reply before heard := by
  induction dialogue generalizing before with
  | done result => exact ⟨[], result, .done result, trivial⟩
  | ask asked next inductionHypothesis =>
    obtain ⟨heard, result, held, replies⟩ :=
      inductionHypothesis (reply before asked) (before ++ [⟨asked, reply before asked⟩])
    exact ⟨_, result, .ask _ held, rfl, replies⟩

end Dialogue

/-! ### Mounts and unmounts -/

namespace Exchange

/-- Whether a snapshot was mounted at a place. -/
def MountsAt (point : Path) : Exchange backends → Prop
  | ⟨.repository (.mountSnapshot _ _ place), answer⟩ =>
    place.same point = true ∧ ∃ content, (show Except Failure Path from answer) = .ok content
  | _ => False

/-- Whether the snapshot at a place was unmounted. -/
def FreesAt (point : Path) : Exchange backends → Prop
  | ⟨.repository (.unmountSnapshot _ place), answer⟩ =>
    place.same point = true ∧ (show Except Failure Unit from answer) = .ok ()
  | _ => False

end Exchange

namespace Tools

open HostTask Repositories

/-- A snapshot was mounted at a place, and since then none was unmounted there. -/
def MountedSince (point : Path) (exchanges : List (Exchange backends)) : Prop :=
  ∃ early exchange late, exchanges = early ++ exchange :: late ∧ exchange.MountsAt point ∧
    ∀ other ∈ late, ¬other.FreesAt point

theorem mountedSince_cons_iff {point : Path} {exchange : Exchange backends}
    {rest : List (Exchange backends)} :
    MountedSince point (exchange :: rest) ↔
      MountedSince point rest ∨
        exchange.MountsAt point ∧ ∀ other ∈ rest, ¬other.FreesAt point := by
  constructor
  · rintro ⟨early, mount, late, split, mounts, kept⟩
    cases early with
    | nil =>
      obtain ⟨rfl, rfl⟩ := List.cons.inj split
      exact .inr ⟨mounts, kept⟩
    | cons first early =>
      obtain ⟨rfl, rfl⟩ := List.cons.inj split
      exact .inl ⟨early, mount, late, rfl, mounts, kept⟩
  · rintro (⟨early, mount, late, rfl, mounts, kept⟩ | ⟨mounts, kept⟩)
    · exact ⟨exchange :: early, mount, late, rfl, mounts, kept⟩
    · exact ⟨[], exchange, rest, rfl, mounts, kept⟩

namespace Repositories

/-! ### Answers and the table -/

/-- What becomes of the serving programs where a snapshot is mounted. -/
def afterMount (servers : Servers) (mountPoint : Path) : Except Failure (Path × Child) → Servers
  | .ok (_, child) => servers.insert mountPoint.canonical child
  | .error _ => servers

variable {usage : Usage} {destination : Destination} {snapshot : Snapshot} {mountPoint : Path}
  {servers after : Servers} {heard : List (Exchange NodeAgent.host)}

theorem held_mountSnapshot_iff {answered : Except Failure Path} :
    Dialogue.Held (answer usage servers (.mountSnapshot destination snapshot mountPoint)) heard
        (answered, after) ↔
      ∃ mounted, MountCourse usage destination snapshot mountPoint heard mounted ∧
        answered = mounted.map Prod.fst ∧ after = afterMount servers mountPoint mounted := by
  refine Dialogue.held_bind_iff.trans ?_
  constructor
  · rintro ⟨first, second, mounted, rfl, mounting, ended⟩
    cases mounted with
    | ok | error =>
      obtain ⟨rfl, same⟩ := held_done_iff.1 ended
      cases same
      exact ⟨_, by rwa [List.append_nil, ← held_mount_iff], rfl, rfl⟩
  · rintro ⟨mounted, course, rfl, rfl⟩
    refine ⟨heard, [], mounted, (List.append_nil _).symm, held_mount_iff.2 course, ?_⟩
    cases mounted with
    | ok | error => exact .done _

/-- Where an unmount fails nothing changes, and where it comes out well the entry for the mount
point is removed, if there is one. -/
theorem after_of_held_unmountSnapshot {answered : Except Failure Unit}
    (held : Dialogue.Held (answer usage servers (.unmountSnapshot destination mountPoint)) heard
      (answered, after)) :
    (∃ failure, answered = .error failure ∧ after = servers) ∨
      answered = .ok () ∧ after = servers.erase mountPoint.canonical := by
  obtain ⟨first, second, unmounted, rfl, _, rest⟩ := Dialogue.held_bind_iff.1 held
  cases unmounted with
  | error failure =>
    obtain ⟨_, same⟩ := held_done_iff.1 rest
    cases same
    exact .inl ⟨failure, rfl, rfl⟩
  | ok output =>
    dsimp only at rest
    split at rest
    · obtain ⟨_, _, _, rfl, _, ended⟩ := Dialogue.held_bind_iff.1 rest
      obtain ⟨_, same⟩ := held_done_iff.1 ended
      cases same
      exact .inr ⟨rfl, rfl⟩
    · next missing =>
      obtain ⟨_, same⟩ := held_done_iff.1 rest
      cases same
      exact .inr ⟨rfl, (Table.erase_of_get? missing).symm⟩

end Repositories

/-- What an answered call makes of the serving programs: a mount that comes out well adds the
program that it started, an unmount that comes out well removes what there is, and nothing else
changes them. -/
inductive Alters (servers : Servers) :
    Exchange backends → List (Exchange NodeAgent.host) → Servers → Prop where
  | mounted {destination : Destination} {snapshot : Snapshot} {place content : Path} {child : Child}
      {heard : List (Exchange NodeAgent.host)}
      (started : ⟨.start (serving destination place), (.ok child : Except SystemFault Child)⟩ ∈
        heard) :
      Alters servers (.ofRepository (.mountSnapshot destination snapshot place)
        (show Except Failure Path from .ok content)) heard (servers.insert place.canonical child)
  | unmounted {destination : Destination} {place : Path} {heard : List (Exchange NodeAgent.host)} :
      Alters servers (.ofRepository (.unmountSnapshot destination place)
        (show Except Failure Unit from .ok ())) heard (servers.erase place.canonical)
  | same {exchange : Exchange backends} {heard : List (Exchange NodeAgent.host)}
      (mountless : ∀ point, ¬exchange.MountsAt point) (kept : ∀ point, ¬exchange.FreesAt point) :
      Alters servers exchange heard servers

variable {toolbox : Toolbox} {servers after : Servers} {exchange : Exchange backends}
  {exchanges : List (Exchange backends)} {heard : List (Exchange NodeAgent.host)}

theorem alters_of_held {call : Call} {answered : call.Answer}
    (held : Dialogue.Held (toolbox.answer call servers) heard (answered, after)) :
    Alters servers ⟨call, answered⟩ heard after := by
  cases call with
  | volume call =>
    obtain ⟨_, _, same⟩ := held_andThen_done_iff.1 held
    cases same
    exact .same (fun _ mounts => mounts) fun _ frees => frees
  | repository call =>
    cases call with
    | findNearest | backup =>
      obtain ⟨_, _, same⟩ := held_andThen_done_iff.1 held
      cases same
      exact .same (fun _ mounts => mounts) fun _ frees => frees
    | mountSnapshot destination snapshot place =>
      obtain ⟨mounted, course, rfl, rfl⟩ := held_mountSnapshot_iff.1 held
      cases mounted with
      | ok place => exact .mounted (course.prompt.seen _ _ rfl).2.1
      | error failure => exact .same (fun _ mounts => nomatch mounts.2) fun _ frees => frees
    | unmountSnapshot destination place =>
      rcases after_of_held_unmountSnapshot held with ⟨failure, rfl, rfl⟩ | ⟨rfl, rfl⟩
      · exact .same (fun _ mounts => mounts) fun _ frees => nomatch frees.2
      · exact .unmounted

/-- After a call there is an entry where the call mounted a snapshot, or where there was one before
and the call did not unmount it. -/
theorem Alters.contains_iff (alters : Alters servers exchange heard after) (point : Path) :
    after.contains point.canonical = true ↔
      exchange.MountsAt point ∨
        servers.contains point.canonical = true ∧ ¬exchange.FreesAt point := by
  cases alters with
  | same mountless kept => simp [mountless point, kept point]
  | @mounted destination snapshot place content child heard started =>
    by_cases same : place.same point = true
    · refine iff_of_true ?_ (.inl ⟨same, content, rfl⟩)
      rw [Table.contains, ← Path.canonical_eq_iff.2 same, Table.get?_insert_self]
      rfl
    · have other : point.canonical ≠ place.canonical := fun equal =>
        same (Path.canonical_eq_iff.1 equal.symm)
      rw [Table.contains, Table.get?_insert_other _ _ other]
      constructor
      · exact fun there => .inr ⟨there, id⟩
      · exact fun held => held.elim (fun mounts => absurd mounts.1 same) And.left
  | @unmounted destination place heard =>
    by_cases same : place.same point = true
    · refine iff_of_false ?_ fun held => held.elim id fun there => there.2 ⟨same, rfl⟩
      rw [Table.contains, ← Path.canonical_eq_iff.2 same, Table.get?_erase_self]
      exact Bool.false_ne_true
    · have other : point.canonical ≠ place.canonical := fun equal =>
        same (Path.canonical_eq_iff.1 equal.symm)
      rw [Table.contains, Table.get?_erase_other _ other]
      constructor
      · exact fun there => .inr ⟨there, fun frees => same frees.1⟩
      · exact fun held => held.elim False.elim And.left

/-- A program in the table after a call was there before, or it was started for the mount point. -/
theorem Alters.started (alters : Alters servers exchange heard after) {point : Path} {child : Child}
    (there : after.get? point.canonical = some child) :
    servers.get? point.canonical = some child ∨
      ∃ destination place, place.same point = true ∧
        ⟨.start (serving destination place), (.ok child : Except SystemFault Child)⟩ ∈ heard := by
  cases alters with
  | same => exact .inl there
  | @mounted destination snapshot place content served heard started =>
    by_cases same : place.canonical = point.canonical
    · rw [← same, Table.get?_insert_self] at there
      cases there
      exact .inr ⟨destination, place, Path.canonical_eq_iff.1 same, started⟩
    · exact .inl (by rwa [Table.get?_insert_other _ _ (Ne.symm same)] at there)
  | @unmounted destination place heard =>
    by_cases same : place.canonical = point.canonical
    · rw [← same, Table.get?_erase_self] at there
      cases there
    · exact .inl (by rwa [Table.get?_erase_other _ (Ne.symm same)] at there)

theorem Alters.eq_of_failure? (alters : Alters servers exchange heard after) {failure : Failure}
    (failed : exchange.failure? = some failure) : after = servers := by
  cases alters with
  | same => rfl
  | mounted | unmounted => cases failed

/-- After any calls there is an entry where a snapshot is mounted since, or where there was one from
the beginning that none of them unmounted. -/
theorem contains_iff_of_served (served : toolbox.Served servers exchanges heard after)
    (point : Path) :
    after.contains point.canonical = true ↔
      MountedSince point exchanges ∨
        servers.contains point.canonical = true ∧ ∀ other ∈ exchanges, ¬other.FreesAt point := by
  induction served with
  | nil servers =>
    have never : ¬MountedSince point [] := by
      rintro ⟨early, exchange, late, split, _⟩
      exact List.append_ne_nil_of_right_ne_nil early (List.cons_ne_nil _ _) split.symm
    simp [never]
  | cons call answered held _ inductionHypothesis =>
    -- The first call mounts for good where none of the others unmounts.
    rw [inductionHypothesis, (alters_of_held held).contains_iff point, mountedSince_cons_iff,
      List.forall_mem_cons]
    tauto

/-- Every program in the table was there from the beginning, or it was started for the mount point
that it has an entry for. -/
theorem started_of_served (served : toolbox.Served servers exchanges heard after) {point : Path}
    {child : Child} (there : after.get? point.canonical = some child) :
    servers.get? point.canonical = some child ∨
      ∃ destination place, place.same point = true ∧
        ⟨.start (serving destination place), (.ok child : Except SystemFault Child)⟩ ∈ heard := by
  induction served with
  | nil => exact .inl there
  | cons call answered held _ inductionHypothesis =>
    rcases inductionHypothesis there with before | ⟨destination, place, same, started⟩
    · refine ((alters_of_held held).started before).imp_right ?_
      rintro ⟨destination, place, same, started⟩
      exact ⟨destination, place, same, List.mem_append_left _ started⟩
    · exact .inr ⟨destination, place, same, List.mem_append_right _ started⟩

/-- Whatever the host answers, after any calls on the empty table there is an entry for a mount
point exactly where a snapshot was mounted there and none was unmounted since, and the entry is a
program that was started for it. A call that fails leaves the table as it is. A mount always ends,
it goes in one of the ways of `MountCourse`, and it is prompt. -/
theorem servers_follow_mounts (toolbox : Toolbox) :
    (∀ exchanges heard servers, toolbox.Served .empty exchanges heard servers → ∀ point : Path,
      (servers.contains point.canonical = true ↔ MountedSince point exchanges) ∧
        ∀ child, servers.get? point.canonical = some child → ∃ destination place,
          place.same point = true ∧
            ⟨.start (serving destination place), (.ok child : Except SystemFault Child)⟩ ∈ heard) ∧
      (∀ servers exchange heard after failure, toolbox.Served servers [exchange] heard after →
        exchange.failure? = some failure → after = servers) ∧
      ∀ servers destination snapshot place,
        (∀ reply, ∃ heard answered after,
          toolbox.Served servers
              [.ofRepository (.mountSnapshot destination snapshot place) answered] heard after ∧
            Dialogue.Replies reply [] heard) ∧
          (∀ heard answered after,
            toolbox.Served servers
                [.ofRepository (.mountSnapshot destination snapshot place) answered] heard after ↔
              ∃ mounted,
                MountCourse toolbox.repositories destination snapshot place heard mounted ∧
                  answered = mounted.map Prod.fst ∧ after = afterMount servers place mounted) ∧
          ∀ heard mounted,
            MountCourse toolbox.repositories destination snapshot place heard mounted →
              Prompt toolbox.repositories destination snapshot place heard mounted := by
  refine ⟨fun exchanges heard servers served point => ⟨?_, fun child there => ?_⟩,
    fun servers exchange heard after failure served failed => ?_,
    fun servers destination snapshot place => ⟨fun reply => ?_, fun heard answered after => ?_,
      fun heard mounted course => course.prompt⟩⟩
  · rw [contains_iff_of_served served point, Table.contains, Table.get?_empty]
    simp
  · rcases started_of_served served there with before | started
    · rw [Table.get?_empty] at before
      cases before
    · exact started
  · exact (alters_of_held (Toolbox.served_singleton_iff.1 served)).eq_of_failure? failed
  · obtain ⟨heard, ⟨answered, after⟩, held, replies⟩ := Dialogue.exists_held_replies reply []
      (toolbox.answer (.repository (.mountSnapshot destination snapshot place)) servers)
    exact ⟨heard, answered, after, Toolbox.served_singleton_iff.2 held, replies⟩
  · exact Toolbox.served_singleton_iff.trans held_mountSnapshot_iff

end Tools

namespace Memory

open Tools Tools.Repositories

/-! ### A mount that stays, one that does not appear and one that is unmounted -/

/-- The tools for these mounts. -/
def servingToolbox : Toolbox := ⟨1000, ⟨"node-a", 1000⟩⟩

/-- A snapshot without paths. -/
def bareSnapshot : Snapshot := ⟨"r", "0123456789", "01234567", ⟨0⟩, []⟩

/-- Mounts it at three places and unmounts what is at the last of them, which is spelled
differently. -/
def servingThree : Operation Unit (List (Except Failure Path) × Except Failure Unit) := do
  let first ← askRepository (.mountSnapshot ⟨"r", .empty⟩ bareSnapshot ⟨"/mnt/a"⟩)
  let second ← askRepository (.mountSnapshot ⟨"r", .empty⟩ bareSnapshot ⟨"/mnt/b"⟩)
  let third ← askRepository (.mountSnapshot ⟨"r", .empty⟩ bareSnapshot ⟨"/mnt/c"⟩)
  let freed ← askRepository (.unmountSnapshot ⟨"r", .empty⟩ ⟨"/mnt//c/"⟩)
  return ([first, second, third], freed)

/-- A host on which the content appears at the first and the last of these places. -/
def servingHost : ScriptedHost :=
  .begin [.hangs, .hangs, .ends ⟨some 0, [], []⟩, .hangs, .ends ⟨some 0, [], []⟩]
    [⟨"/mnt/a/ids/01234567"⟩, ⟨"/mnt/c/ids/01234567"⟩]

/-- How a mount fails that does not appear at a place. -/
def overdueAt (place : Path) : Failure :=
  .timeout (Repositories.serving ⟨"r", .empty⟩ place).text 120

/-- What a host is asked to mount the snapshot once. -/
def overdueMount : Dialogue host (Except Failure Path × Servers) :=
  servingToolbox.answer (.repository (.mountSnapshot ⟨"r", .empty⟩ bareSnapshot ⟨"/mnt/b"⟩)) .empty

/-- A host on which the content does not appear. -/
def overdueHost : ScriptedHost := .begin [.hangs, .ends ⟨some 0, [], []⟩] []

/-- Of three mounts the one that stays has an entry, and neither the one that did not appear in
time nor the one that was unmounted. A mount that does not appear leaves the table as it is, and
pauses no more often than the time for it allows. -/
theorem servers_kept_through_timeout :
    (∃ exchanges heard servers,
      Converses servingThree () exchanges (.ok ([.ok ⟨"/mnt/a/ids/01234567"⟩,
        .error (overdueAt ⟨"/mnt/b"⟩), .ok ⟨"/mnt/c/ids/01234567"⟩], .ok ())) () ∧
      servingToolbox.Served .empty exchanges heard servers ∧
      MountedSince ⟨"/mnt/a"⟩ exchanges ∧ ¬MountedSince ⟨"/mnt/b"⟩ exchanges ∧
      ¬MountedSince ⟨"/mnt/c"⟩ exchanges) ∧
      ∃ heard after,
        servingToolbox.Served .empty
            [.ofRepository (.mountSnapshot ⟨"r", .empty⟩ bareSnapshot ⟨"/mnt/b"⟩)
              (show Except Failure Path from .error (overdueAt ⟨"/mnt/b"⟩))] heard after ∧
          after = .empty ∧ heard.countP (asks (.pause pollInterval)) ≤ 240 := by
  obtain ⟨follow, keep, prompt⟩ := servers_follow_mounts servingToolbox
  constructor
  · obtain ⟨heard, held, _⟩ := servingHost.held_and_started (fun _ => True)
      (servingToolbox.hold .empty () servingThree)
    have well : (servingHost.hold (servingToolbox.hold .empty () servingThree)).1.1.1 =
        .ok ([.ok ⟨"/mnt/a/ids/01234567"⟩, .error (overdueAt ⟨"/mnt/b"⟩),
          .ok ⟨"/mnt/c/ids/01234567"⟩], .ok ()) := by decide +kernel
    have table : ["/mnt/a", "/mnt/b", "/mnt/c"].map (fun place =>
        (servingHost.hold (servingToolbox.hold .empty () servingThree)).1.2.contains
          (Path.mk place).canonical) = [true, false, false] := by decide +kernel
    generalize (servingHost.hold (servingToolbox.hold .empty () servingThree)).1 = all at *
    obtain ⟨⟨outcome, _⟩, servers⟩ := all
    cases well
    obtain ⟨exchanges, conversation, served⟩ := Toolbox.held_hold_iff.1 held
    obtain ⟨stays, missing, freed⟩ : servers.contains (Path.mk "/mnt/a").canonical = true ∧
        servers.contains (Path.mk "/mnt/b").canonical = false ∧
        servers.contains (Path.mk "/mnt/c").canonical = false := by simpa using table
    have entries (point : Path) := (follow exchanges heard servers served point).1
    refine ⟨exchanges, heard, servers, conversation, served, (entries _).1 stays, ?_, ?_⟩
    · rw [← entries, missing]
      exact Bool.false_ne_true
    · rw [← entries, freed]
      exact Bool.false_ne_true
  · obtain ⟨heard, held, _⟩ := overdueHost.held_and_started (fun _ => True) overdueMount
    have late : (overdueHost.hold overdueMount).1.1 = .error (overdueAt ⟨"/mnt/b"⟩) := by
      decide +kernel
    generalize (overdueHost.hold overdueMount).1 = all at *
    obtain ⟨answered, after⟩ := all
    cases late
    have served := Toolbox.served_singleton_iff.2 held
    obtain ⟨mounted, course, _⟩ := ((prompt _ _ _ _).2.1 heard _ after).1 served
    exact ⟨heard, after, served, keep _ _ heard after _ served rfl,
      ((prompt .empty _ _ _).2.2 heard mounted course).pauses⟩

end Memory

end NodeAgent
