/-
This file follows the agent through whole runs. A run begins with an agent that has seen no
request and adds one completed call after another, with whatever the backends answered in it: a
step is what `Agent.publish` or `Agent.unpublish` can come to, no more and no less. A restore of a
volume is outstanding in a history when one failed and no later publish filled the volume; the agent
marks a volume exactly while one is outstanding.
-/

import Mathlib.Data.List.Induction
import NodeAgent.Proofs.Release

namespace NodeAgent

/-- A call that was completed, with its request, its conversation and its outcome. -/
inductive Completed where
  | publish (now : Instant) (volume : String) (target : Path) (capacity : Option Int)
      (exchanges : List (Exchange backends)) (progress : Progress)
      (outcome : Except Failure Published)
  | unpublish (now : Instant) (volume : String) (target : Path)
      (exchanges : List (Exchange backends)) (outcome : Except Failure Released)

namespace Progress

/-- What a publish does to the marks of the volumes that still have to be filled. -/
def mark (volume : String) (pending : Table Unit) : Progress → Table Unit
  | refused | absent | alreadyMounted _ => pending
  | presented _ filling => filling.mark volume pending

/-- Whether the volume was filled, or there was nothing to fill it from. -/
def Settles : Progress → Prop
  | presented _ filling => filling.Settles
  | refused | absent | alreadyMounted _ => False

/-- Whether a restore was begun and failed. -/
def Breaks : Progress → Prop
  | presented _ filling => filling.Breaks
  | refused | absent | alreadyMounted _ => False

end Progress

namespace Completed

/-- What was asked and answered in a call. -/
def exchanges : Completed → List (Exchange backends)
  | publish _ _ _ _ exchanges _ _ | unpublish _ _ _ exchanges _ => exchanges

/-- The call was a publish of the volume and took a course with this property. -/
def Took (volume : String) (property : Progress → Prop) : Completed → Prop
  | publish _ name _ _ _ progress _ => name = volume ∧ property progress
  | unpublish _ _ _ _ _ => False

/-- The call published the volume and completed a restore of it or found nothing to restore. -/
def Settles (volume : String) (call : Completed) : Prop := call.Took volume Progress.Settles

/-- The call began to restore the volume and failed at that. -/
def Breaks (volume : String) (call : Completed) : Prop := call.Took volume Progress.Breaks

/-- The call published the volume and came out well. -/
def Succeeds (volume : String) : Completed → Prop
  | publish _ name _ _ _ _ outcome => name = volume ∧ outcome.isOk = true
  | unpublish _ _ _ _ _ => False

theorem Took.imp {volume : String} {first second : Progress → Prop} {call : Completed}
    (took : call.Took volume first) (implies : ∀ progress, first progress → second progress) :
    call.Took volume second := by
  cases call with
  | publish => exact ⟨took.1, implies _ took.2⟩
  | unpublish => exact took

end Completed

/-- Everything that was asked and answered in a history. -/
def exchangesOf (history : List Completed) : List (Exchange backends) :=
  history.flatMap Completed.exchanges

/-- The last restore of the volume that was begun failed, and no later publish completed one or
found that there is nothing to restore. -/
def Outstanding (volume : String) (history : List Completed) : Prop :=
  ∃ earlier call later, history = earlier ++ call :: later ∧ call.Breaks volume ∧
    ∀ other ∈ later, ¬other.Settles volume

/-- What one call can come to. -/
inductive Step (settings : Settings) (agent : Agent) : Completed → Agent → Prop where
  | publish {now volume target capacity exchanges progress outcome after}
      (course : Agent.Publishes settings now volume target capacity agent exchanges progress outcome
        after) :
      Step settings agent (.publish now volume target capacity exchanges progress outcome) after
  | unpublish {now volume target exchanges outcome after}
      (course : Agent.Releases settings now volume target agent exchanges outcome after) :
      Step settings agent (.unpublish now volume target exchanges outcome) after

section Steps

open Operation

variable {settings : Settings} {now : Instant} {volume : String} {target : Path}
  {agent after : Agent} {exchanges : List (Exchange backends)}

/-- A publish can come to what its operation can come to, by one course or another. -/
theorem step_publish_iff {capacity : Option Int} {outcome : Except Failure Published} :
    (∃ progress, Step settings agent
        (.publish now volume target capacity exchanges progress outcome) after) ↔
      Converses (Agent.publish settings now volume target capacity) agent exchanges outcome
        after := by
  rw [Agent.converses_publish_iff]
  refine exists_congr fun progress => ⟨fun step => ?_, .publish⟩
  cases step with
  | publish course => exact course

/-- A release can come to what its operation can come to. -/
theorem step_unpublish_iff {outcome : Except Failure Released} :
    Step settings agent (.unpublish now volume target exchanges outcome) after ↔
      Converses (Agent.unpublish settings now volume target) agent exchanges outcome after := by
  rw [Agent.converses_unpublish_iff]
  refine ⟨fun step => ?_, .unpublish⟩
  cases step with
  | unpublish course => exact course

end Steps

/-- The histories of an agent with the agent that each of them leaves behind. -/
inductive Run (settings : Settings) : List Completed → Agent → Prop where
  | fresh (roster : Roster) : Run settings [] (.fresh roster)
  | step {history agent call after} (run : Run settings history agent)
      (step : Step settings agent call after) : Run settings (history ++ [call]) after

/-! ### Marks -/

theorem Filling.not_settles_of_breaks {filling : Filling} (breaks : filling.Breaks) :
    ¬filling.Settles := by
  cases filling with
  | broken source failure => exact id
  | unfilled | nothingFound | restored _ => exact absurd breaks id

/-- Filling one volume marks or clears that volume and no other. -/
theorem Filling.contains_mark (filling : Filling) (volume name : String) (pending : Table Unit) :
    (filling.mark volume pending).contains name = true ↔
      (volume = name ∧ filling.Breaks) ∨
        (pending.contains name = true ∧ ¬(volume = name ∧ filling.Settles)) := by
  by_cases same : volume = name
  · subst same
    cases filling <;> simp [mark, Breaks, Settles, Table.contains]
  · have other : name ≠ volume := Ne.symm same
    cases filling <;>
      simp [mark, Breaks, Settles, Table.contains, same, Table.get?_insert_other _ _ other,
        Table.get?_erase_other _ other]

theorem Progress.contains_mark (progress : Progress) (volume name : String)
    (pending : Table Unit) :
    (progress.mark volume pending).contains name = true ↔
      (volume = name ∧ progress.Breaks) ∨
        (pending.contains name = true ∧ ¬(volume = name ∧ progress.Settles)) := by
  cases progress with
  | presented presence filling => exact filling.contains_mark volume name pending
  | refused | absent | alreadyMounted _ => simp [mark, Breaks, Settles]

namespace Agent

variable {settings : Settings} {now : Instant} {volume : String} {target : Path}
  {agent after : Agent} {exchanges : List (Exchange backends)}

/-- What a publish leaves marked depends on its course only. -/
theorem Publishes.pending_eq {capacity : Option Int} {progress : Progress}
    {outcome : Except Failure Published}
    (course : Publishes settings now volume target capacity agent exchanges progress outcome
      after) :
    after.pending = progress.mark volume agent.pending := by
  cases course with
  | refused | absent | alreadyMounted | broken | unmounted | mounted => rfl

/-- A release marks nothing and clears nothing. -/
theorem Releases.pending_eq {outcome : Except Failure Released}
    (course : Releases settings now volume target agent exchanges outcome after) :
    after.pending = agent.pending := by
  cases course with
  | refused | unlisted | missing => rfl
  | departed =>
    cases outcome with
    | ok | error => rfl

end Agent

/-! ### Runs -/

/-- A list whose last element is known, cut at some element. -/
theorem append_singleton_eq_append_cons {Element : Type} {front before after : List Element}
    {last element : Element} (split : front ++ [last] = before ++ element :: after) :
    (before = front ∧ element = last ∧ after = []) ∨
      ∃ rest, after = rest ++ [last] ∧ front = before ++ element :: rest := by
  rcases List.eq_nil_or_concat after with rfl | ⟨rest, final, rfl⟩
  · obtain ⟨rfl, same⟩ := List.append_inj' split rfl
    cases same
    exact Or.inl ⟨rfl, rfl, rfl⟩
  · rw [List.concat_eq_append, ← List.cons_append, ← List.append_assoc] at split
    obtain ⟨rfl, same⟩ := List.append_inj' split rfl
    cases same
    exact Or.inr ⟨rest, List.concat_eq_append, rfl⟩

theorem outstanding_append_singleton {volume : String} {history : List Completed}
    {call : Completed} :
    Outstanding volume (history ++ [call]) ↔
      call.Breaks volume ∨ (Outstanding volume history ∧ ¬call.Settles volume) := by
  constructor
  · rintro ⟨earlier, failed, later, split, breaks, unsettled⟩
    rcases append_singleton_eq_append_cons split with ⟨rfl, rfl, rfl⟩ | ⟨rest, rfl, rfl⟩
    · exact Or.inl breaks
    · refine Or.inr ⟨⟨earlier, failed, rest, rfl, breaks, fun other member => ?_⟩, ?_⟩
      · exact unsettled other (List.mem_append_left _ member)
      · exact unsettled call (List.mem_append_right _ List.mem_cons_self)
  · rintro (breaks | ⟨⟨earlier, failed, later, rfl, breaks, unsettled⟩, unsettling⟩)
    · exact ⟨history, call, [], rfl, breaks, fun other member => nomatch member⟩
    · refine ⟨earlier, failed, later ++ [call], ?_, breaks, fun other member => ?_⟩
      · rw [List.append_assoc, List.cons_append]
      rcases List.mem_append.1 member with old | new
      · exact unsettled other old
      · rw [List.mem_singleton.1 new]
        exact unsettling

theorem not_outstanding_nil (volume : String) : ¬Outstanding volume [] := by
  rintro ⟨earlier, call, later, split, _⟩
  cases earlier <;> cases split

/-- A failed restore stays outstanding as long as no call settles the volume. -/
theorem Outstanding.append {volume : String} {history more : List Completed}
    (outstanding : Outstanding volume history) (unsettled : ∀ call ∈ more, ¬call.Settles volume) :
    Outstanding volume (history ++ more) := by
  obtain ⟨earlier, failed, later, rfl, breaks, quiet⟩ := outstanding
  refine ⟨earlier, failed, later ++ more, ?_, breaks, fun other member => ?_⟩
  · rw [List.append_assoc, List.cons_append]
  · rcases List.mem_append.1 member with old | new
    · exact quiet other old
    · exact unsettled other new

namespace Run

variable {settings : Settings} {history : List Completed} {agent : Agent}

/-- The last call of a run and the run before it. -/
theorem of_append_singleton {call : Completed} (run : Run settings (history ++ [call]) agent) :
    ∃ before, Run settings history before ∧ Step settings before call agent := by
  generalize longer : history ++ [call] = whole at run
  cases run with
  | fresh roster => exact absurd longer (List.append_ne_nil_of_right_ne_nil _ nofun)
  | step run step =>
    obtain ⟨rfl, same⟩ := List.append_inj' longer rfl
    cases same
    exact ⟨_, run, step⟩

/-- A publish that follows recorded exchanges goes on with a run. -/
theorem publish_of_follow (run : Run settings history agent) {now : Instant} {volume : String}
    {target : Path} {capacity : Option Int} {exchanges : List (Exchange backends)}
    {outcome : Except Failure Published} {after : Agent}
    (followed : Dialogue.follow ((Agent.publish settings now volume target capacity).run agent)
      exchanges = some (outcome, after)) :
    ∃ progress, Run settings
      (history ++ [.publish now volume target capacity exchanges progress outcome]) after := by
  obtain ⟨progress, step⟩ := step_publish_iff.2 (Dialogue.follow_eq_some_iff.1 followed)
  exact ⟨progress, run.step step⟩

/-- Every call of a run was a step of the agent. -/
theorem step_of_mem (run : Run settings history agent) {call : Completed}
    (member : call ∈ history) : ∃ before after, Step settings before call after := by
  induction run with
  | fresh roster => cases member
  | step run step inductionHypothesis =>
    rcases List.mem_append.1 member with old | new
    · exact inductionHypothesis old
    · rw [List.mem_singleton.1 new]
      exact ⟨_, _, step⟩

/-- Any beginning of a run is a run. -/
theorem of_append {more : List Completed} (run : Run settings (history ++ more) agent) :
    ∃ before, Run settings history before := by
  induction more using List.reverseRecOn generalizing agent with
  | nil => exact ⟨agent, by rwa [List.append_nil] at run⟩
  | append_singleton more call inductionHypothesis =>
    rw [← List.append_assoc] at run
    obtain ⟨before, earlier, step⟩ := run.of_append_singleton
    exact inductionHypothesis earlier

/-- The agent marks a volume exactly while a failed restore of it is outstanding. -/
theorem pending_iff_outstanding (run : Run settings history agent) (volume : String) :
    agent.pending.contains volume = true ↔ Outstanding volume history := by
  induction run with
  | fresh roster => exact iff_of_false nofun (not_outstanding_nil volume)
  | step run step inductionHypothesis =>
    rw [outstanding_append_singleton]
    cases step with
    | publish course =>
      rw [course.pending_eq, Progress.contains_mark, inductionHypothesis]
      rfl
    | unpublish course =>
      rw [course.pending_eq, inductionHypothesis]
      exact ⟨fun outstanding => Or.inr ⟨outstanding, id⟩, fun either =>
        either.elim False.elim And.left⟩

end Run

end NodeAgent
