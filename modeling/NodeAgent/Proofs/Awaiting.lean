/-
This file says how the agent mounts a snapshot. It starts the program that serves the snapshot and
waits for the content to appear: it looks for the content and at the program, and pauses between two
such rounds. Each pause lasts at least as long as asked for, so the rounds are bounded by the time
that is left. The wait comes out well only where the content was seen. Once no time is left the
program is killed, the mount point is unmounted once and the failure is that of a timeout. The
pauses are the clock: what passes elsewhere is counted to the pause before it.
-/

import NodeAgent.Proofs.Sighting

namespace NodeAgent

open Operation

namespace HostTask

variable {Result Later : Type} {heard : List (Exchange host)}

/-- After a question a task goes on with its answer. -/
theorem held_ask_bind_iff {call : HostCall} {next : call.Answer → HostTask Later}
    {ended : Except Failure Later} :
    Dialogue.Held (ExceptT.run (ask call >>= next)) heard ended ↔
      ∃ (answer : call.Answer) (rest : List (Exchange host)), heard = ⟨call, answer⟩ :: rest ∧
        Dialogue.Held (ExceptT.run (next answer)) rest ended := by
  constructor
  · intro held
    cases held with
    | ask answer rest => exact ⟨answer, _, rfl, rest⟩
  · rintro ⟨answer, rest, rfl, held⟩
    exact @Dialogue.Held.ask NodeAgent.host _ call (fun answer => ExceptT.run (next answer)) answer
      rest ended held

/-- Looking at the result of a task asks nothing. -/
theorem held_bind_pure_iff {task : HostTask Result} {look : Result → Later}
    {ended : Except Failure Later} :
    Dialogue.Held (ExceptT.run (task >>= fun result => pure (look result))) heard ended ↔
      ∃ outcome, Dialogue.Held (ExceptT.run task) heard outcome ∧ ended = outcome.map look := by
  constructor
  · intro held
    rcases held_bind_iff.1 held with ⟨_, _, result, rfl, first, last⟩ | ⟨failure, rfl, first⟩
    · obtain ⟨rfl, rfl⟩ := held_done_iff.1 last
      exact ⟨.ok result, by rwa [List.append_nil], rfl⟩
    · exact ⟨.error failure, first, rfl⟩
  · rintro ⟨outcome, first, rfl⟩
    cases outcome with
    | ok result =>
      exact held_bind_iff.2 (.inl ⟨heard, [], result, (List.append_nil _).symm, first, .done _⟩)
    | error failure => exact held_bind_iff.2 (.inr ⟨failure, rfl, first⟩)

theorem held_makeMountPoint_iff {place : Path} {ended : Except Failure Unit} :
    Dialogue.Held (ExceptT.run (makeMountPoint place)) heard ended ↔
      ∃ made : Except SystemFault Unit, heard = [⟨.makeDirectories place, made⟩] ∧
        ended = made.mapError fun fault =>
          .storage s!"Failed to create mount point {place.quoted}: {fault}" := by
  constructor
  · intro held
    obtain ⟨(made : Except SystemFault Unit), _, rfl, last⟩ := held_ask_bind_iff.1 held
    cases made with
    | ok | error =>
      obtain ⟨rfl, rfl⟩ := held_done_iff.1 last
      exact ⟨_, rfl, rfl⟩
  · rintro ⟨made, rfl, rfl⟩
    cases made with
    | ok | error => exact held_ask_bind_iff.2 ⟨_, [], rfl, .done _⟩

end HostTask

namespace Tools.Repositories

open HostTask

/-! ### Rounds -/

/-- A round that ends with a pause: the content is not there, the program that is to serve it runs,
and the pause takes longer than asked for by some time. -/
def round (content : Path) (child : Child) (excess : Nat) : List (Exchange NodeAgent.host) :=
  [⟨.isThere content, false⟩, ⟨.poll child, (.ok .running : Except SystemFault ChildState)⟩,
    ⟨.pause pollInterval, excess⟩]

/-- The time that some pauses took, each longer than asked for by some time. -/
def elapsed : List Nat → Nat
  | [] => 0
  | excess :: pauses => pollInterval + excess + elapsed pauses

/-- How the last round of a wait goes. The program is given up only where it is too late. -/
inductive LastRound (usage : Usage) (invocation : Invocation) (mountPoint content : Path)
    (child : Child) (late : Prop) :
    List (Exchange NodeAgent.host) → Except Failure Unit → Prop where
  | seen : LastRound usage invocation mountPoint content child late
      [⟨.isThere content, true⟩] (.ok ())
  | unpolled (fault : SystemFault) : LastRound usage invocation mountPoint content child late
      [⟨.isThere content, false⟩, ⟨.poll child, (.error fault : Except SystemFault ChildState)⟩]
      (.error (.backend invocation.text none s!"failed to poll restic mount: {fault}"))
  | exited (status : Option Int) : LastRound usage invocation mountPoint content child late
      [⟨.isThere content, false⟩,
        ⟨.poll child, (.ok (.ended status) : Except SystemFault ChildState)⟩]
      (.error (.backend invocation.text status
        "restic mount exited before the snapshot became available"))
  | overdue (timeout : late) (released : Outcome) :
      LastRound usage invocation mountPoint content child late
        [⟨.isThere content, false⟩, ⟨.poll child, (.ok .running : Except SystemFault ChildState)⟩,
          ⟨.kill child, ()⟩, ⟨.run (Volumes.unmounting mountPoint) usage.limit, released⟩]
        (.error (.timeout invocation.text (mountLimit / 1000)))

/-- How a wait goes for which some time is left: rounds with pauses, each of them before the time is
over, and a last round. -/
structure Polls (usage : Usage) (invocation : Invocation) (mountPoint content : Path)
    (child : Child) (left : Nat) (pauses : List Nat) (last : List (Exchange NodeAgent.host))
    (outcome : Except Failure Unit) : Prop where
  early : ∀ before excess after, pauses = before ++ excess :: after → elapsed before < left
  ending : LastRound usage invocation mountPoint content child (left ≤ elapsed pauses) last outcome

variable {usage : Usage} {invocation : Invocation} {mountPoint content : Path} {child : Child}
  {left : Nat} {heard last : List (Exchange NodeAgent.host)} {outcome : Except Failure Unit}
  {pauses : List Nat}

theorem elapsed_cons (excess : Nat) (pauses : List Nat) :
    elapsed (excess :: pauses) = pollInterval + excess + elapsed pauses := rfl

theorem LastRound.mono {late later : Prop} (implies : late → later)
    (ending : LastRound usage invocation mountPoint content child late last outcome) :
    LastRound usage invocation mountPoint content child later last outcome := by
  cases ending with
  | seen => exact .seen
  | unpolled fault => exact .unpolled fault
  | exited status => exact .exited status
  | overdue timeout released => exact .overdue (implies timeout) released

theorem polls_nil_iff :
    Polls usage invocation mountPoint content child left [] last outcome ↔
      LastRound usage invocation mountPoint content child (left = 0) last outcome := by
  constructor
  · exact fun polls => polls.ending.mono Nat.eq_zero_of_le_zero
  · refine fun ending => ⟨fun before excess after split => ?_, ending.mono Nat.le_of_eq⟩
    exact absurd split.symm (List.append_ne_nil_of_right_ne_nil _ (List.cons_ne_nil _ _))

theorem polls_cons_iff {excess : Nat} :
    Polls usage invocation mountPoint content child left (excess :: pauses) last outcome ↔
      0 < left ∧ Polls usage invocation mountPoint content child (left - (pollInterval + excess))
        pauses last outcome := by
  constructor
  · intro polls
    refine ⟨polls.early [] excess pauses rfl, fun before next after split => ?_,
      polls.ending.mono fun timeout => ?_⟩
    · have sooner := polls.early (excess :: before) next after (congrArg (excess :: ·) split)
      rw [elapsed_cons] at sooner
      omega
    · rw [elapsed_cons] at timeout
      omega
  · rintro ⟨remains, polls⟩
    refine ⟨fun before next after split => ?_, polls.ending.mono fun timeout => ?_⟩
    · cases before with
      | nil => exact remains
      | cons first before =>
        obtain ⟨rfl, rest⟩ := List.cons.inj split
        have sooner := polls.early _ _ _ rest
        rw [elapsed_cons]
        omega
    · rw [elapsed_cons]
      omega

/-- A wait has its last round, or one with a pause after which it goes on. -/
theorem held_await_step_iff :
    Dialogue.Held (ExceptT.run (await usage invocation mountPoint content child left)) heard
        outcome ↔
      LastRound usage invocation mountPoint content child (left = 0) heard outcome ∨
        ∃ excess rest, 0 < left ∧ heard = round content child excess ++ rest ∧
          Dialogue.Held (ExceptT.run (await usage invocation mountPoint content child
            (left - (pollInterval + excess)))) rest outcome := by
  constructor
  · intro held
    unfold await at held
    obtain ⟨(there : Bool), _, rfl, looked⟩ := held_ask_bind_iff.1 held
    cases there with
    | true =>
      rw [if_pos rfl] at looked
      obtain ⟨rfl, rfl⟩ := held_done_iff.1 looked
      exact .inl .seen
    | false =>
    rw [if_neg Bool.false_ne_true] at looked
    obtain ⟨(state : Except SystemFault ChildState), _, rfl, polled⟩ := held_ask_bind_iff.1 looked
    match state, polled with
    | .error fault, polled =>
      obtain ⟨rfl, rfl⟩ := held_done_iff.1 polled
      exact .inl (.unpolled fault)
    | .ok (.ended status), polled =>
      obtain ⟨rfl, rfl⟩ := held_done_iff.1 polled
      exact .inl (.exited status)
    | .ok .running, polled =>
    dsimp only at polled
    by_cases passed : left = 0
    · rw [if_pos passed] at polled
      obtain ⟨_, _, rfl, killed⟩ := held_ask_bind_iff.1 polled
      obtain ⟨released, _, rfl, ended⟩ := held_ask_bind_iff.1 killed
      obtain ⟨rfl, rfl⟩ := held_done_iff.1 ended
      exact .inl (.overdue passed released)
    · rw [if_neg passed] at polled
      obtain ⟨excess, _, rfl, later⟩ := held_ask_bind_iff.1 polled
      exact .inr ⟨excess, _, Nat.pos_of_ne_zero passed, rfl, later⟩
  · rintro (ending | ⟨excess, rest, remains, rfl, later⟩)
    · rw [await]
      cases ending with
      | seen => exact held_ask_bind_iff.2 ⟨true, _, rfl, .done _⟩
      | unpolled fault =>
        exact held_ask_bind_iff.2 ⟨false, _, rfl,
          held_ask_bind_iff.2 ⟨.error fault, _, rfl, .done _⟩⟩
      | exited status =>
        exact held_ask_bind_iff.2 ⟨false, _, rfl,
          held_ask_bind_iff.2 ⟨.ok (.ended status), _, rfl, .done _⟩⟩
      | overdue passed released =>
        refine held_ask_bind_iff.2 ⟨false, _, rfl,
          held_ask_bind_iff.2 ⟨.ok .running, _, rfl, ?_⟩⟩
        dsimp only
        rw [if_pos passed]
        exact held_ask_bind_iff.2 ⟨(), _, rfl, held_ask_bind_iff.2 ⟨released, _, rfl, .done _⟩⟩
    · rw [await]
      refine held_ask_bind_iff.2 ⟨false, _, rfl, held_ask_bind_iff.2 ⟨.ok .running, _, rfl, ?_⟩⟩
      dsimp only
      rw [if_neg (Nat.ne_of_gt remains)]
      exact held_ask_bind_iff.2 ⟨excess, _, rfl, later⟩

/-- The conversations of a wait are these. Every pause leaves less time. -/
theorem held_await_iff :
    Dialogue.Held (ExceptT.run (await usage invocation mountPoint content child left)) heard
        outcome ↔
      ∃ pauses last, heard = pauses.flatMap (round content child) ++ last ∧
        Polls usage invocation mountPoint content child left pauses last outcome := by
  constructor
  · intro held
    induction left using Nat.strongRecOn generalizing heard with
    | ind left inductionHypothesis =>
      rcases held_await_step_iff.1 held with ending | ⟨excess, rest, remains, rfl, later⟩
      · exact ⟨[], heard, rfl, polls_nil_iff.2 ending⟩
      · have less : left - (pollInterval + excess) < left := by
          unfold pollInterval
          omega
        obtain ⟨pauses, last, rfl, polls⟩ := inductionHypothesis _ less later
        exact ⟨excess :: pauses, last, rfl, polls_cons_iff.2 ⟨remains, polls⟩⟩
  · rintro ⟨pauses, last, rfl, polls⟩
    induction pauses generalizing left with
    | nil => exact held_await_step_iff.2 (.inl (polls_nil_iff.1 polls))
    | cons excess pauses inductionHypothesis =>
      obtain ⟨remains, later⟩ := polls_cons_iff.1 polls
      exact held_await_step_iff.2
        (.inr ⟨excess, _, remains, List.append_assoc .., inductionHypothesis later⟩)

theorem length_mul_le_elapsed (pauses : List Nat) :
    pauses.length * pollInterval ≤ elapsed pauses := by
  induction pauses with
  | nil => exact Nat.le_of_eq (Nat.zero_mul _)
  | cons excess pauses inductionHypothesis =>
    rw [List.length_cons, elapsed_cons, Nat.succ_mul]
    omega

/-- The time that is left, over the time between two looks, bounds the rounds with a pause: the last
of them was in time, and those before it took as long as asked for at least. -/
theorem Polls.length_mul_lt
    (polls : Polls usage invocation mountPoint content child left pauses last outcome) :
    pauses.length * pollInterval < left + pollInterval := by
  cases pauses using List.reverseRecOn with
  | nil => exact Nat.lt_of_lt_of_le (by decide) (Nat.le_add_left pollInterval left)
  | append_singleton before excess =>
    have early := polls.early before excess [] rfl
    have least := length_mul_le_elapsed before
    rw [List.length_append, List.length_singleton, Nat.succ_mul]
    omega

/-! ### One mount -/

/-- How mounting a snapshot goes. -/
inductive MountCourse (usage : Usage) (destination : Destination) (snapshot : Snapshot)
    (mountPoint : Path) :
    List (Exchange NodeAgent.host) → Except Failure (Path × Child) → Prop where
  | unmade (fault : SystemFault) : MountCourse usage destination snapshot mountPoint
      [⟨.makeDirectories mountPoint, (.error fault : Except SystemFault Unit)⟩]
      (.error (.storage s!"Failed to create mount point {mountPoint.quoted}: {fault}"))
  | unstarted (fault : SystemFault) : MountCourse usage destination snapshot mountPoint
      [⟨.makeDirectories mountPoint, (.ok () : Except SystemFault Unit)⟩,
        ⟨.start (serving destination mountPoint), (.error fault : Except SystemFault Child)⟩]
      (.error (.backend (serving destination mountPoint).text none
        s!"failed to spawn restic: {fault}"))
  | awaited {child : Child} {pauses : List Nat} {last : List (Exchange NodeAgent.host)}
      {outcome : Except Failure Unit}
      (polls : Polls usage (serving destination mountPoint) mountPoint
        (contentDirectory mountPoint snapshot) child mountLimit pauses last outcome) :
      MountCourse usage destination snapshot mountPoint
        (⟨.makeDirectories mountPoint, (.ok () : Except SystemFault Unit)⟩ ::
          ⟨.start (serving destination mountPoint), (.ok child : Except SystemFault Child)⟩ ::
            (pauses.flatMap (round (contentDirectory mountPoint snapshot) child) ++ last))
        (outcome.map fun _ => (contentDirectory mountPoint snapshot, child))

variable {usage : Usage} {destination : Destination} {snapshot : Snapshot} {mountPoint : Path}
  {heard : List (Exchange NodeAgent.host)} {mounted : Except Failure (Path × Child)}

/-- The conversations of a mount are these. -/
theorem held_mount_iff :
    Dialogue.Held (ExceptT.run (mount usage destination snapshot mountPoint)) heard mounted ↔
      MountCourse usage destination snapshot mountPoint heard mounted := by
  constructor
  · intro held
    rcases HostTask.held_bind_iff.1 held with ⟨_, _, _, rfl, making, starting⟩ | ⟨_, rfl, making⟩
    · obtain ⟨made, rfl, same⟩ := held_makeMountPoint_iff.1 making
      cases made with
      | error => cases same
      | ok =>
      obtain ⟨(started : Except SystemFault Child), _, rfl, going⟩ := held_ask_bind_iff.1 starting
      cases started with
      | error fault =>
        obtain ⟨rfl, rfl⟩ := held_done_iff.1 going
        exact .unstarted fault
      | ok child =>
        obtain ⟨outcome, waiting, rfl⟩ := held_bind_pure_iff.1 going
        obtain ⟨pauses, last, rfl, polls⟩ := held_await_iff.1 waiting
        exact .awaited polls
    · obtain ⟨made, rfl, same⟩ := held_makeMountPoint_iff.1 making
      cases made with
      | ok => cases same
      | error fault =>
        cases same
        exact .unmade fault
  · intro course
    cases course with
    | unmade fault =>
      exact HostTask.held_bind_iff.2
        (.inr ⟨_, rfl, held_makeMountPoint_iff.2 ⟨.error fault, rfl, rfl⟩⟩)
    | unstarted fault =>
      exact HostTask.held_bind_iff.2 (.inl ⟨_, _, (), rfl,
        held_makeMountPoint_iff.2 ⟨.ok (), rfl, rfl⟩,
        held_ask_bind_iff.2 ⟨.error fault, _, rfl, .done _⟩⟩)
    | @awaited child pauses last outcome polls =>
      have waiting := held_await_iff.2 ⟨pauses, last, rfl, polls⟩
      exact HostTask.held_bind_iff.2 (.inl ⟨_, _, (), rfl,
        held_makeMountPoint_iff.2 ⟨.ok (), rfl, rfl⟩,
        held_ask_bind_iff.2 ⟨.ok child, _, rfl, held_bind_pure_iff.2 ⟨outcome, waiting, rfl⟩⟩⟩)

/-! ### Looks, and the end of the time -/

/-- Whether an exchange is about this question. -/
def asks (call : HostCall) (exchange : Exchange NodeAgent.host) : Bool :=
  (show HostCall from exchange.question) = call

/-- How long an exchange paused. -/
def pauseOf : Exchange NodeAgent.host → Nat
  | ⟨.pause duration, excess⟩ => duration + (show Nat from excess)
  | _ => 0

/-- How long some exchanges paused. -/
def paused : List (Exchange NodeAgent.host) → Nat
  | [] => 0
  | exchange :: rest => pauseOf exchange + paused rest

variable {content : Path} {child : Child} {left : Nat} {pauses : List Nat}
  {invocation : Invocation} {last early late : List (Exchange NodeAgent.host)}
  {outcome : Except Failure Unit}

theorem countP_flatMap_round {call : HostCall} {times : Nat}
    (each : ∀ excess, (round content child excess).countP (asks call) = times) :
    (pauses.flatMap (round content child)).countP (asks call) = pauses.length * times := by
  induction pauses with
  | nil => exact (Nat.zero_mul times).symm
  | cons excess pauses inductionHypothesis =>
    rw [List.flatMap_cons, List.countP_append, each, inductionHypothesis, List.length_cons,
      Nat.succ_mul, Nat.add_comm]

@[simp] theorem paused_nil : paused [] = 0 := rfl

@[simp] theorem paused_cons (exchange : Exchange NodeAgent.host) :
    paused (exchange :: heard) = pauseOf exchange + paused heard := rfl

@[simp] theorem paused_append (first second : List (Exchange NodeAgent.host)) :
    paused (first ++ second) = paused first + paused second := by
  induction first with
  | nil => exact (Nat.zero_add _).symm
  | cons exchange rest inductionHypothesis =>
    rw [List.cons_append, paused_cons, paused_cons, inductionHypothesis, Nat.add_assoc]

theorem paused_flatMap_round (content : Path) (child : Child) (pauses : List Nat) :
    paused (pauses.flatMap (round content child)) = elapsed pauses := by
  induction pauses with
  | nil => rfl
  | cons excess pauses inductionHypothesis =>
    rw [List.flatMap_cons, paused_append, inductionHypothesis, elapsed_cons]
    simp [round, pauseOf]

/-- A program that is found to run in the last round is killed, and then the mount point is
unmounted. -/
theorem LastRound.of_running {other : Child} {timed : Prop}
    (ending : LastRound usage invocation mountPoint content child timed last outcome)
    (split : last =
      early ++ ⟨.poll other, (.ok .running : Except SystemFault ChildState)⟩ :: late) :
    (∃ released, late = [⟨.kill other, ()⟩,
        ⟨.run (Volumes.unmounting mountPoint) usage.limit, released⟩]) ∧
      outcome = .error (.timeout invocation.text (mountLimit / 1000)) := by
  have running : ⟨.poll other, (.ok .running : Except SystemFault ChildState)⟩ ∈ last := by
    rw [split]
    exact List.mem_append_right _ List.mem_cons_self
  cases ending with
  | seen => cases List.mem_singleton.1 running
  | unpolled | exited => rcases List.mem_pair.1 running with same | same <;> cases same
  | overdue timeout released =>
    match early, split with
    | [], split | [_, _], split | [_, _, _], split => cases split
    | _ :: _ :: _ :: _ :: _, split => simp at split
    | [_], split =>
      cases split
      exact ⟨⟨released, rfl⟩, rfl⟩

/-- So it is wherever it is found to run once the time is over. -/
theorem Polls.of_running {other : Child}
    (polls : Polls usage invocation mountPoint content child left pauses last outcome)
    (split : pauses.flatMap (round content child) ++ last =
      early ++ ⟨.poll other, (.ok .running : Except SystemFault ChildState)⟩ :: late)
    (passed : left ≤ paused early) :
    (∃ released, late = [⟨.kill other, ()⟩,
        ⟨.run (Volumes.unmounting mountPoint) usage.limit, released⟩]) ∧
      outcome = .error (.timeout invocation.text (mountLimit / 1000)) := by
  induction pauses generalizing left early with
  | nil => exact polls.ending.of_running split
  | cons excess pauses inductionHypothesis =>
    obtain ⟨remains, later⟩ := polls_cons_iff.1 polls
    -- Of the exchanges of a round only the second is such a look, and then the time is not over.
    match early, split, passed with
    | [], split, _ => cases split
    | [_], split, passed =>
      obtain ⟨rfl, _⟩ := List.cons.inj split
      exact absurd passed (Nat.not_le.2 remains)
    | [_, _], split, _ => cases split
    | _ :: _ :: _ :: early, split, passed =>
      simp only [round, List.flatMap_cons, List.cons_append, List.cons.injEq] at split
      obtain ⟨rfl, rfl, rfl, rest⟩ := split
      refine inductionHypothesis later rest (Nat.sub_le_iff_le_add'.2 (passed.trans_eq ?_))
      simp [pauseOf]

/-- What holds of every mount. The time for it, over the time between two looks, bounds the pauses,
and after each of them there is one more look. -/
structure Prompt (usage : Usage) (destination : Destination) (snapshot : Snapshot)
    (mountPoint : Path) (heard : List (Exchange NodeAgent.host))
    (mounted : Except Failure (Path × Child)) : Prop where
  pauses : heard.countP (asks (.pause pollInterval)) ≤ mountLimit / pollInterval
  looks : heard.countP (asks (.isThere (contentDirectory mountPoint snapshot))) ≤
    mountLimit / pollInterval + 1
  unmounts : heard.countP (asks (.run (Volumes.unmounting mountPoint) usage.limit)) ≤ 1
  seen : ∀ content child, mounted = .ok (content, child) →
    content = contentDirectory mountPoint snapshot ∧
      ⟨.start (serving destination mountPoint), (.ok child : Except SystemFault Child)⟩ ∈ heard ∧
      ⟨.isThere content, true⟩ ∈ heard
  deadline : ∀ early child late,
    heard = early ++ ⟨.poll child, (.ok .running : Except SystemFault ChildState)⟩ :: late →
    mountLimit ≤ paused early →
    (∃ released, late = [⟨.kill child, ()⟩,
        ⟨.run (Volumes.unmounting mountPoint) usage.limit, released⟩]) ∧
      mounted = .error (.timeout (serving destination mountPoint).text (mountLimit / 1000))
  patience : ∀ child, heard.any (asks (.kill child)) = true → mountLimit ≤ paused heard

theorem LastRound.countP_pause {timed : Prop} {duration : Nat}
    (ending : LastRound usage invocation mountPoint content child timed last outcome) :
    last.countP (asks (.pause duration)) = 0 := by
  cases ending <;> simp [asks]

theorem LastRound.countP_isThere {timed : Prop}
    (ending : LastRound usage invocation mountPoint content child timed last outcome) :
    last.countP (asks (.isThere content)) = 1 := by
  cases ending <;> simp [asks]

theorem LastRound.countP_run_le {timed : Prop} {unmount : Invocation} {limit : Nat}
    (ending : LastRound usage invocation mountPoint content child timed last outcome) :
    last.countP (asks (.run unmount limit)) ≤ 1 := by
  cases ending with
  | seen | unpolled | exited => simp [asks]
  | overdue timeout released =>
    rw [List.countP_cons_of_neg (by simp [asks]), List.countP_cons_of_neg (by simp [asks]),
      List.countP_cons_of_neg (by simp [asks])]
    exact List.countP_le_length

theorem LastRound.timed_of_killed {other : Child} {timed : Prop}
    (ending : LastRound usage invocation mountPoint content child timed last outcome)
    (killed : last.any (asks (.kill other)) = true) : timed := by
  cases ending with
  | overdue timeout => exact timeout
  | seen | unpolled | exited => simp [asks] at killed

theorem Polls.countP_pause
    (polls : Polls usage invocation mountPoint content child left pauses last outcome) :
    (pauses.flatMap (round content child) ++ last).countP (asks (.pause pollInterval)) =
      pauses.length := by
  have each (excess : Nat) :
      (round content child excess).countP (asks (.pause pollInterval)) = 1 := by
    simp [round, asks]
  rw [List.countP_append, polls.ending.countP_pause, countP_flatMap_round each, Nat.mul_one]
  rfl

theorem Polls.countP_isThere
    (polls : Polls usage invocation mountPoint content child left pauses last outcome) :
    (pauses.flatMap (round content child) ++ last).countP (asks (.isThere content)) =
      pauses.length + 1 := by
  have each (excess : Nat) :
      (round content child excess).countP (asks (.isThere content)) = 1 := by
    simp [round, asks]
  rw [List.countP_append, polls.ending.countP_isThere, countP_flatMap_round each, Nat.mul_one]

theorem Polls.countP_run_le {unmount : Invocation} {limit : Nat}
    (polls : Polls usage invocation mountPoint content child left pauses last outcome) :
    (pauses.flatMap (round content child) ++ last).countP (asks (.run unmount limit)) ≤ 1 := by
  have each (excess : Nat) :
      (round content child excess).countP (asks (.run unmount limit)) = 0 := by
    simp [round, asks]
  rw [List.countP_append, countP_flatMap_round each, Nat.mul_zero, Nat.zero_add]
  exact polls.ending.countP_run_le

theorem Polls.length_le
    (polls : Polls usage invocation mountPoint content child mountLimit pauses last outcome) :
    pauses.length ≤ mountLimit / pollInterval := by
  have fewer := polls.length_mul_lt
  simp only [mountLimit, pollInterval] at fewer ⊢
  omega

theorem Polls.prompt
    (polls : Polls usage (serving destination mountPoint) mountPoint
      (contentDirectory mountPoint snapshot) child mountLimit pauses last outcome) :
    Prompt usage destination snapshot mountPoint
      (⟨.makeDirectories mountPoint, (.ok () : Except SystemFault Unit)⟩ ::
        ⟨.start (serving destination mountPoint), (.ok child : Except SystemFault Child)⟩ ::
          (pauses.flatMap (round (contentDirectory mountPoint snapshot) child) ++ last))
      (outcome.map fun _ => (contentDirectory mountPoint snapshot, child)) where
  pauses := by
    simpa [asks] using polls.countP_pause.trans_le polls.length_le
  looks := by
    simpa [asks] using polls.countP_isThere.trans_le (Nat.succ_le_succ polls.length_le)
  unmounts := by
    simpa [asks] using polls.countP_run_le
  seen := by
    intro found served well
    cases outcome with
    | error failure => cases well
    | ok =>
      cases well
      cases polls.ending
      simp
  deadline := by
    intro early other late split passed
    match early, split, passed with
    | [], split, _ | [_], split, _ => cases split
    | _ :: _ :: early, split, passed =>
      simp only [List.cons_append, List.cons.injEq] at split
      obtain ⟨rfl, rfl, rest⟩ := split
      obtain ⟨released, failed⟩ := polls.of_running rest (passed.trans_eq (by simp [pauseOf]))
      exact ⟨released, by rw [failed]; rfl⟩
  patience := by
    intro other killed
    have rounds : (pauses.flatMap (round (contentDirectory mountPoint snapshot) child)).any
        (asks (.kill other)) = false := by simp [round, asks]
    have gone : last.any (asks (.kill other)) = true := by simpa [asks, rounds] using killed
    refine (polls.ending.timed_of_killed gone).trans ?_
    rw [← paused_flatMap_round (contentDirectory mountPoint snapshot) child]
    simp [pauseOf]

/-- Every mount is prompt. -/
theorem MountCourse.prompt
    (course : MountCourse usage destination snapshot mountPoint heard mounted) :
    Prompt usage destination snapshot mountPoint heard mounted := by
  cases course with
  | unmade fault =>
    refine ⟨by simp [asks], by simp [asks], by simp [asks], nofun, fun early _ _ split _ => ?_,
      by simp [asks]⟩
    match early, split with
    | [], split => cases split
    | _ :: _, split => simp at split
  | unstarted fault =>
    refine ⟨by simp [asks], by simp [asks], by simp [asks], nofun, fun early _ _ split _ => ?_,
      by simp [asks]⟩
    match early, split with
    | [], split | [_], split => cases split
    | _ :: _ :: _, split => simp at split
  | awaited polls => exact polls.prompt

end Tools.Repositories

end NodeAgent
