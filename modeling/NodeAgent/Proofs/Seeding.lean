/-
This file says when a publish fills its volume from a snapshot. It does so where it created the
volume, where every publish restores, and where a failed restore of the volume is outstanding in the
history; otherwise it asks the repositories nothing and copies nothing. While a failed restore is
outstanding no release of the volume backs it up.
-/

import NodeAgent.Proofs.Session

namespace NodeAgent

open Operation

/-! ### Creation -/

namespace Pool

variable {pool : ThinPool} {name : String} {least : Size} {before after : Roster}
  {exchanges : List (Exchange backends)}

theorem Requires.not_asksCreation {outcome : Except Failure Volume} (other : String)
    (requires : Requires pool name before exchanges outcome after) :
    ¬AsksCreation other exchanges := by
  cases requires with
  | found | missing | unlisted =>
    rw [asksCreation_cons]
    exact not_or.2 ⟨id, not_asksCreation_nil other⟩

/-- A volume that is present counts as created where its creation was asked for in this call, and
then the creation was reported as done. -/
theorem Presents.created_of_asksCreation {presence : Presence}
    (presents : Presents pool name least before exchanges (.ok presence) after)
    (asks : AsksCreation name exchanges) : presence.created = true := by
  cases presents with
  | created => rfl
  | extended volumes existing there smaller required =>
    rw [asksCreation_cons, asksCreation_cons] at asks
    rcases asks with listing | extending | further
    · exact absurd listing id
    · exact absurd extending id
    · exact absurd further (required.not_asksCreation name)
  | unchanged =>
    rw [asksCreation_cons] at asks
    rcases asks with listing | further
    · exact absurd listing id
    · exact absurd further (not_asksCreation_nil name)

theorem Presents.reports_created {presence : Presence}
    (presents : Presents pool name least before exchanges (.ok presence) after)
    (created : presence.created = true) : Created name exchanges := by
  cases presents with
  | created => exact ⟨pool, least, List.mem_cons_of_mem _ List.mem_cons_self⟩
  | extended | unchanged => exact absurd (of_decide_eq_true created) nofun

end Pool

namespace Agent

variable {settings : Settings} {now : Instant} {volume : String} {target : Path}
  {capacity : Option Int} {agent after : Agent} {exchanges : List (Exchange backends)}

/-- In a publish whose volume was present, the volume counts as created exactly where its creation
was asked for, and then the creation was reported as done. -/
theorem Publishes.created_of_asksCreation {presence : Pool.Presence} {how : Filling}
    {outcome : Except Failure Published}
    (course : Publishes settings now volume target capacity agent exchanges
      (.presented presence how) outcome after)
    (asks : AsksCreation volume exchanges) : presence.created = true := by
  obtain ⟨presenting, filling, mounting, roster, last, rfl, present, fills, mounts⟩ :=
    course.parts_of_presented
  rw [asksCreation_append, asksCreation_append] at asks
  rcases asks with (presented | filled) | ⟨exchange, member, creation⟩
  · exact (Pool.presents_of_converses present).created_of_asksCreation presented
  · exact absurd filled (fills.not_asksCreation volume)
  · exact absurd creation ((mounts exchange member).isRestoring.not_isCreationOf volume)

theorem Publishes.created_iff {presence : Pool.Presence} {how : Filling}
    {outcome : Except Failure Published}
    (course : Publishes settings now volume target capacity agent exchanges
      (.presented presence how) outcome after) :
    presence.created = true ↔ Created volume exchanges := by
  constructor
  · intro created
    obtain ⟨presenting, filling, mounting, roster, last, rfl, present, fills, mounts⟩ :=
      course.parts_of_presented
    obtain ⟨pool, size, member⟩ := (Pool.presents_of_converses present).reports_created created
    exact ⟨pool, size, List.mem_append_left _ (List.mem_append_left _ member)⟩
  · intro created
    exact course.created_of_asksCreation created.asksCreation

end Agent

/-- The next publish of a volume that finds it present and not mounted at its target is to fill it:
the publish created it, every publish restores, or a failed restore of it is outstanding. -/
def Due (settings : Settings) (history : List Completed) (volume : String)
    (exchanges : List (Exchange backends)) : Prop :=
  Created volume exchanges ∨ settings.policy = .always ∨ Outstanding volume history

section

variable {settings : Settings} {history : List Completed} {agent after : Agent} {now : Instant}
  {volume : String} {target : Path} {capacity : Option Int} {exchanges : List (Exchange backends)}
  {presence : Pool.Presence} {how : Filling}

theorem fills_iff_due {outcome : Except Failure Published} (run : Run settings history agent)
    (course : Agent.Publishes settings now volume target capacity agent exchanges
      (.presented presence how) outcome after) :
    agent.fills settings volume presence = true ↔ Due settings history volume exchanges := by
  unfold Agent.fills Due
  rw [Bool.or_eq_true, Bool.or_eq_true, decide_eq_true_eq, course.created_iff,
    run.pending_iff_outstanding]
  exact or_assoc.trans (or_congr_right or_comm)

theorem queriesOf_of_presented {outcome : Except Failure Published}
    (run : Run settings history agent)
    (course : Agent.Publishes settings now volume target capacity agent exchanges
      (.presented presence how) outcome after)
    (due : Due settings history volume exchanges) :
    queriesOf exchanges = settings.destinations.map (.findNearest · volume now) := by
  rw [course.queriesOf_eq, (fills_iff_due run course).2 due]
  rfl

theorem isUpkeep_of_presented {outcome : Except Failure Published}
    (run : Run settings history agent)
    (course : Agent.Publishes settings now volume target capacity agent exchanges
      (.presented presence how) outcome after)
    (notDue : ¬Due settings history volume exchanges) :
    ∀ exchange ∈ exchanges, Call.IsUpkeep volume exchange.question := by
  have fillsNot := Bool.eq_false_iff.2 (mt (fills_iff_due run course).1 notDue)
  obtain ⟨presenting, filling, mounting, roster, last, rfl, present, fills, mounts⟩ :=
    course.parts_of_presented
  rw [fillsNot] at fills
  rw [fills.eq_nil_of_not_due, List.append_nil]
  intro exchange member
  rcases List.mem_append.1 member with presented | mounted
  · exact Pool.asksOnly_ensurePresent present exchange presented
  · exact (mounts exchange mounted).isUpkeep

theorem backupsOf_eq_nil_of_pending {outcome : Except Failure Released}
    (pending : agent.pending.contains volume = true)
    (course : Agent.Releases settings now volume target agent exchanges outcome after) :
    backupsOf exchanges = [] := by
  cases course with
  | refused => rfl
  | unlisted valid looked | missing valid looked =>
    exact Pool.backupsOf_of_find looked
  | @departed _ current _ _ _ _ valid looked departs =>
    have skips : agent.skipReason? current volume =
        some s!"{volume} was never seeded from backup, skipping backup" := if_pos pending
    rw [skips] at departs
    rw [backupsOf_append, Pool.backupsOf_of_find looked]
    cases departs with
    | stuck left | skipped left =>
      exact Pool.backupsOf_of_ensureUnmounted left

end

/-- A volume is filled exactly when that is due, by asking every destination, and a failed restore
is remembered. A publish that is past making its volume present and did not find it mounted at the
target asks every destination for its nearest snapshot where the volume is due to be filled;
elsewhere it asks no repository anything and copies nothing. As long as a failed restore of a volume
is outstanding, no release of the volume asks for a backup. -/
theorem filled_exactly_when_due {settings : Settings} {history : List Completed} {agent : Agent}
    (run : Run settings history agent) (volume : String) :
    (∀ {now target capacity exchanges presence how outcome after},
      Agent.Publishes settings now volume target capacity agent exchanges (.presented presence how)
        outcome after →
      (Due settings history volume exchanges →
        queriesOf exchanges = settings.destinations.map (.findNearest · volume now)) ∧
      (¬Due settings history volume exchanges →
        ∀ exchange ∈ exchanges, Call.IsUpkeep volume exchange.question)) ∧
    (Outstanding volume history → ∀ {now target exchanges outcome after},
      Converses (Agent.unpublish settings now volume target) agent exchanges outcome after →
      backupsOf exchanges = []) := by
  constructor
  · intro now target capacity exchanges presence how outcome after course
    exact ⟨queriesOf_of_presented run course, isUpkeep_of_presented run course⟩
  · intro outstanding now target exchanges outcome after conversation
    exact backupsOf_eq_nil_of_pending ((run.pending_iff_outstanding volume).2 outstanding)
      (Agent.releases_of_converses conversation)

/-- A first publish whose restore fails leaves the volume to be filled by the next one, and released
without a backup until then. -/
theorem filled_after_failed_restore :
    ∃ history agent, Run (Memory.smallSettings .onCreate) history agent ∧
      Outstanding "pg" history ∧
      (∀ {now target capacity exchanges presence how outcome after},
        Agent.Publishes (Memory.smallSettings .onCreate) now "pg" target capacity agent exchanges
          (.presented presence how) outcome after →
        queriesOf exchanges = [.findNearest ⟨"repo-a", .empty⟩ "pg" now]) ∧
      ∀ {now target exchanges outcome after},
        Converses (Agent.unpublish (Memory.smallSettings .onCreate) now "pg" target) agent exchanges
          outcome after → backupsOf exchanges = [] := by
  obtain ⟨history, _, session⟩ := Memory.exists_session (Memory.smallSettings .onCreate)
    Memory.smallStart .empty
    [.failing [] [("repo-a", .mount)], .publish Memory.smallNow "pg" ⟨"/mnt/a"⟩ none]
  have outstanding : Outstanding "pg" history :=
    (session.run.pending_iff_outstanding "pg").1 (by decide +kernel)
  refine ⟨history, _, session.run, outstanding, fun course => ?_, ?_⟩
  · exact ((filled_exactly_when_due session.run "pg").1 course).1 (Or.inr (Or.inr outstanding))
  · exact (filled_exactly_when_due session.run "pg").2 outstanding

end NodeAgent
