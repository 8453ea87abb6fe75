/-
This file shows that nothing but the backup program sees the secrets of a destination. Two lists of
destinations that differ only in the values of their environments make the agent ask alike
questions, and the tools then put alike questions to the host: the same programs with the same
arguments, and the backup program with the same names in its environment. So with the same answers
of the host all that the agent says is the same.
-/

import NodeAgent.Proofs.Answering
import NodeAgent.Proofs.Likeness

namespace NodeAgent

open Tools

/-! ### Tables -/

namespace Table

variable {Value Other : Type} {same : Value → Other → Prop}

/-- Tables with the same keys, whose values are alike one by one. -/
def Rel (same : Value → Other → Prop) (first : Table Value) (second : Table Other) : Prop :=
  List.Forall₂ (fun one other => one.1 = other.1 ∧ same one.2 other.2) first.entries second.entries

theorem Rel.insert {first : Table Value} {second : Table Other} (each : Rel same first second)
    (key : String) {value : Value} {written : Other} (written_same : same value written) :
    Rel same (first.insert key value) (second.insert key written) := by
  obtain ⟨entries, _⟩ := first
  obtain ⟨others, _⟩ := second
  show List.Forall₂ _ (place key value entries) (place key written others)
  replace each : List.Forall₂ _ entries others := each
  clear * - each written_same
  induction each with
  | nil => exact .cons ⟨rfl, written_same⟩ .nil
  | @cons one other _ _ here rest inductionHypothesis =>
    obtain ⟨name, old⟩ := one
    obtain ⟨_, older⟩ := other
    obtain ⟨rfl, values⟩ := here
    unfold place
    split
    · exact .cons ⟨rfl, written_same⟩ (.cons ⟨rfl, values⟩ rest)
    · split
      · exact .cons ⟨rfl, written_same⟩ rest
      · exact .cons ⟨rfl, values⟩ inductionHypothesis

theorem Rel.mono {others : Value → Other → Prop} {first : Table Value} {second : Table Other}
    (each : Rel same first second) (weaker : ∀ one other, same one other → others one other) :
    Rel others first second :=
  each.imp fun _ _ => And.imp_right (weaker _ _)

theorem Rel.map_values {Last : Type} {look : Value → Last} {first second : Table Value}
    (each : Rel (fun value other => look value = look other) first second) :
    first.values.map look = second.values.map look := by
  unfold values
  rw [List.map_map, List.map_map, ← List.forall₂_eq_eq_eq, List.forall₂_map_left_iff,
    List.forall₂_map_right_iff]
  exact each.imp fun _ _ => And.right

theorem rel_true_iff {first : Table Value} {second : Table Other} :
    Rel (fun _ _ => True) first second ↔ first.keys = second.keys := by
  unfold Rel keys
  rw [← List.forall₂_eq_eq_eq, List.forall₂_map_left_iff, List.forall₂_map_right_iff]
  simp only [and_true]

end Table

/-! ### What is alike -/

/-- Two destinations that differ only in the values of their environments, while the backup program
can be started for both or for neither. -/
structure Destination.Alike (first second : Destination) : Prop where
  repository : first.repository = second.repository
  names : first.environment.keys = second.environment.keys
  calling : ∀ arguments, (Repositories.calling first arguments).holdsNull =
    (Repositories.calling second arguments).holdsNull
  saving : ∀ host volume source time,
    (Repositories.saving first host volume source time).holdsNull =
      (Repositories.saving second host volume source time).holdsNull

/-- Destinations that are alike are shown alike. -/
theorem Destination.Alike.text {first second : Destination} (alike : first.Alike second) :
    first.text = second.text := by
  unfold Destination.text
  rw [alike.repository, alike.names]

/-- Two invocations that differ at most in the values of their environments, and only where they are
of the backup program. -/
structure Invocation.Alike (first second : Invocation) : Prop where
  program : first.program = second.program
  arguments : first.arguments = second.arguments
  names : first.environment.keys = second.environment.keys
  null : first.holdsNull = second.holdsNull
  concealed : first = second ∨ first.program = "restic"

/-- Two texts of which both or neither hold a null character. -/
def SameNull (first second : String) : Prop :=
  first.toList.contains '\x00' = second.toList.contains '\x00'

/-- Whether an invocation holds a null character depends on which of its values do. -/
theorem Invocation.holdsNull_congr {first second : Table String}
    (each : Table.Rel SameNull first second) (program : String) (arguments : List String) :
    (Invocation.mk program arguments first).holdsNull =
      (Invocation.mk program arguments second).holdsNull := by
  have names := Table.rel_true_iff.1 (each.mono fun _ _ _ => trivial)
  have values := congrArg (List.any · id) (Table.Rel.map_values each)
  rw [List.any_map, List.any_map] at values
  unfold Invocation.holdsNull
  dsimp only
  rw [names]
  exact List.any_append.trans ((congrArg (_ || ·) values).trans List.any_append.symm)

/-- Destinations that differ only in values are alike where the same values hold a null
character. -/
theorem Destination.alike_of_rel {first second : Destination}
    (repository : first.repository = second.repository)
    (each : Table.Rel SameNull first.environment second.environment) : first.Alike second := by
  have called := each.insert "RESTIC_REPOSITORY"
    (show SameNull first.repository second.repository from repository ▸ rfl)
  exact {
    repository := repository
    names := Table.rel_true_iff.1 (each.mono fun _ _ _ => trivial)
    calling := fun _ => Invocation.holdsNull_congr called ..
    saving := fun _ _ _ _ => Invocation.holdsNull_congr (called.insert "TZ" rfl) .. }

/-- Invocations that are alike are shown alike. -/
theorem Invocation.Alike.text {first second : Invocation} (alike : first.Alike second) :
    first.text = second.text := by
  unfold Invocation.text
  rw [alike.program, alike.arguments]

/-- Two questions to the host that are the same but for invocations that are alike. -/
inductive HostCall.Alike : HostCall → HostCall → Prop where
  | same (call : HostCall) : Alike call call
  | run {first second : Invocation} (alike : first.Alike second) (limit : Nat) :
      Alike (.run first limit) (.run second limit)
  | start {first second : Invocation} (alike : first.Alike second) :
      Alike (.start first) (.start second)

/-- Two questions of the agent that are the same but for destinations that are alike. -/
inductive Call.Alike : Call → Call → Prop where
  | same (call : Call) : Alike call call
  | findNearest {first second : Destination} (alike : first.Alike second) (volume : String)
      (time : Instant) : Alike (.repository (.findNearest first volume time))
        (.repository (.findNearest second volume time))
  | mountSnapshot {first second : Destination} (alike : first.Alike second) (snapshot : Snapshot)
      (mountPoint : Path) : Alike (.repository (.mountSnapshot first snapshot mountPoint))
        (.repository (.mountSnapshot second snapshot mountPoint))
  | unmountSnapshot {first second : Destination} (alike : first.Alike second)
      (mountPoint : Path) : Alike (.repository (.unmountSnapshot first mountPoint))
        (.repository (.unmountSnapshot second mountPoint))
  | backup {first second : Destination} (alike : first.Alike second) (volume : String)
      (source : Path) (time : Timestamp) : Alike (.repository (.backup first volume source time))
        (.repository (.backup second volume source time))

/-- What is alike for the host. -/
def hostCalls : Likeness host where
  alike := HostCall.Alike
  refl := .same
  answers alike := by cases alike <;> rfl

/-- What is alike for the tools. -/
def calls : Likeness backends where
  alike := Call.Alike
  refl := .same
  answers alike := by cases alike <;> rfl

/-! ### The tools -/

/-- Two tasks that put alike questions to the host. -/
def HostTask.Alike {First Second : Type} (results : First → Second → Prop)
    (first : HostTask First) (second : HostTask Second) : Prop :=
  Dialogue.Alike hostCalls (Outcomes results) (ExceptT.run first) (ExceptT.run second)

namespace HostTask

variable {First Second Later Last : Type} {results : First → Second → Prop}

theorem Alike.refl (task : HostTask First) : Alike Eq task task :=
  (Dialogue.Alike.refl (ExceptT.run task)).mono fun _ _ => outcomes_eq_iff.2

theorem Alike.bind {others : Later → Last → Prop} {first : HostTask First}
    {second : HostTask Second} {next : First → HostTask Later} {following : Second → HostTask Last}
    (alike : Alike results first second)
    (goes : ∀ one other, results one other → Alike others (next one) (following other)) :
    Alike others (first >>= next) (second >>= following) := by
  have outcomes : Dialogue.Alike hostCalls (Outcomes results) (ExceptT.run first)
      (ExceptT.run second) := alike
  refine outcomes.bind fun one other same => ?_
  cases same with
  | ok same => exact goes _ _ same
  | error failure => exact .done (.error failure)

/-- After the same task the rest only has to go alike for each of its results. -/
theorem Alike.after {others : Later → Last → Prop} (task : HostTask First)
    {next : First → HostTask Later} {following : First → HostTask Last}
    (goes : ∀ one, Alike others (next one) (following one)) :
    Alike others (task >>= next) (task >>= following) :=
  Alike.bind (Alike.refl task) fun one _ same => same ▸ goes one

variable {one other : Invocation}

/-- A program that is run for both gives both the same output. -/
theorem alike_output (alike : one.Alike other) (limit : Nat) :
    Alike Eq (output limit one) (output limit other) := by
  have asked : @Alike Outcome Outcome Eq (ask (.run one limit)) (ask (.run other limit)) :=
    .ask (.run alike limit) fun _ _ same => .done (.ok (eq_of_heq same))
  unfold output
  refine asked.bind fun outcome _ same => ?_
  subst same
  have shown : outcome.output one limit = outcome.output other limit := by
    cases outcome with
    | ended output => rfl
    | unstarted fault =>
      unfold Outcome.output
      rw [alike.text, alike.program]
    | overdue =>
      unfold Outcome.output
      rw [alike.text]
  rw [shown]
  exact Alike.refl _

theorem alike_run (alike : one.Alike other) (limit : Nat) :
    Alike Eq (run limit one) (run limit other) := by
  unfold run
  refine (alike_output alike limit).bind fun output _ same => ?_
  subst same
  unfold Output.checked
  rw [alike.text]
  exact Alike.refl _

end HostTask

namespace Tools

namespace Repositories

open HostTask

variable {first second : Destination}

theorem alike_calling (alike : first.Alike second) (arguments : List String) :
    (calling first arguments).Alike (calling second arguments) where
  program := rfl
  arguments := rfl
  names := Table.rel_true_iff.1 ((Table.rel_true_iff.2 alike.names).insert _ trivial)
  null := alike.calling arguments
  concealed := .inr rfl

theorem alike_saving (alike : first.Alike second) (host volume : String) (source : Path)
    (time : Timestamp) :
    (saving first host volume source time).Alike (saving second host volume source time) where
  program := rfl
  arguments := rfl
  names := Table.rel_true_iff.1
    ((Table.rel_true_iff.2 (alike_calling alike []).names).insert _ trivial)
  null := alike.saving host volume source time
  concealed := .inr rfl

theorem alike_findNearest (alike : first.Alike second) (usage : Usage) (volume : String)
    (time : Instant) :
    HostTask.Alike Eq (findNearest usage first volume time)
      (findNearest usage second volume time) := by
  unfold findNearest
  refine (alike_run (alike_calling alike _) _).bind fun output _ same => ?_
  subst same
  rw [alike.repository]
  exact HostTask.Alike.refl _

variable {one other : Invocation}

theorem alike_giveUp (alike : one.Alike other) (usage : Usage) (mountPoint : Path)
    (child : Child) :
    HostTask.Alike Eq (giveUp usage one mountPoint child)
      (giveUp usage other mountPoint child) := by
  unfold giveUp
  rw [alike.text]
  exact HostTask.Alike.refl _

theorem alike_await (alike : one.Alike other) (usage : Usage) (mountPoint content : Path)
    (child : Child) (left : Nat) :
    HostTask.Alike Eq (await usage one mountPoint content child left)
      (await usage other mountPoint content child left) := by
  induction left using Nat.strongRecOn with
  | ind left inductionHypothesis =>
    unfold await
    refine .after _ fun there => ?_
    split
    · exact HostTask.Alike.refl _
    refine .after _ fun state => ?_
    split
    · rw [alike.text]
      exact HostTask.Alike.refl _
    · rw [alike.text]
      exact HostTask.Alike.refl _
    · split
      · exact alike_giveUp alike ..
      · refine .after _ fun excess => ?_
        exact inductionHypothesis _ (by unfold pollInterval; omega)

theorem alike_mount (alike : first.Alike second) (usage : Usage) (snapshot : Snapshot)
    (mountPoint : Path) :
    HostTask.Alike Eq (mount usage first snapshot mountPoint)
      (mount usage second snapshot mountPoint) := by
  have served := alike_calling alike ["mount", mountPoint.text]
  have started : @HostTask.Alike (Except SystemFault Child) (Except SystemFault Child) Eq
      (ask (.start (serving first mountPoint))) (ask (.start (serving second mountPoint))) :=
    .ask (.start served) fun _ _ same => .done (.ok (eq_of_heq same))
  unfold mount
  refine .after _ fun _ => ?_
  refine started.bind fun state _ same => ?_
  subst same
  split
  · rw [show (serving first mountPoint).text = (serving second mountPoint).text from served.text]
    exact HostTask.Alike.refl _
  · refine (alike_await served ..).bind fun _ _ _ => ?_
    exact HostTask.Alike.refl _

end Repositories

/-- Calls that are alike are answered alike, and the same programs go on serving. -/
theorem Toolbox.alike_answer {one other : Call} (alike : one.Alike other) (toolbox : Toolbox)
    (servers : Servers) :
    Dialogue.Alike hostCalls (fun answered given => HEq answered.1 given.1 ∧ answered.2 = given.2)
      (toolbox.answer one servers) (toolbox.answer other servers) := by
  cases alike with
  | same call =>
    refine (Dialogue.Alike.refl _).mono ?_
    rintro answered _ rfl
    exact ⟨HEq.rfl, rfl⟩
  | findNearest alike volume time =>
    have found := Repositories.alike_findNearest alike toolbox.repositories volume time
    refine Dialogue.Alike.bind found fun answered _ same => ?_
    rw [outcomes_eq_iff.1 same]
    exact .done ⟨HEq.rfl, rfl⟩
  | mountSnapshot alike snapshot mountPoint =>
    have mounted := Repositories.alike_mount alike toolbox.repositories snapshot mountPoint
    refine Dialogue.Alike.bind mounted fun answered _ same => ?_
    rw [outcomes_eq_iff.1 same]
    split
    · exact .done ⟨HEq.rfl, rfl⟩
    · exact .done ⟨HEq.rfl, rfl⟩
  | unmountSnapshot alike mountPoint =>
    refine (Dialogue.Alike.refl _).mono ?_
    rintro answered _ rfl
    exact ⟨HEq.rfl, rfl⟩
  | backup alike volume source time =>
    have saved := HostTask.alike_run
      (Repositories.alike_saving alike toolbox.repositories.host volume source time)
      toolbox.repositories.limit
    refine Dialogue.Alike.bind saved fun outcome _ same => ?_
    rw [outcomes_eq_iff.1 same]
    exact .done ⟨HEq.rfl, rfl⟩

end Tools

end NodeAgent
