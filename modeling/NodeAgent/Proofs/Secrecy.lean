/-
This file follows two agents whose destinations differ only in the values of their environments
through the same requests. As long as the host gives the same answers, and refuses to start what
holds a null character, both say and do the same, and only the environments of the backup program
differ. A null character in a secret is seen from outside, because nothing is started with it.
-/

import NodeAgent.Memory.ScriptedHost
import NodeAgent.Proofs.Concealment
import NodeAgent.Rpc.Session

namespace NodeAgent

open Tools

/-! ### Operations that go alike -/

namespace Operation

variable {State Larger First Second Later Last : Type} {results : First → Second → Prop}

/-- Two operations that ask alike questions and leave the same state. -/
def Alike (results : First → Second → Prop) (first : Operation State First)
    (second : Operation State Second) : Prop :=
  ∀ state, Dialogue.Alike calls (fun one other => Outcomes results one.1 other.1 ∧ one.2 = other.2)
    ((ExceptT.run first).run state) ((ExceptT.run second).run state)

theorem Alike.refl (operation : Operation State First) : Alike Eq operation operation := by
  intro state
  refine (Dialogue.Alike.refl _).mono ?_
  rintro one _ rfl
  exact ⟨outcomes_eq_iff.2 rfl, rfl⟩

theorem Alike.bind {others : Later → Last → Prop} {first : Operation State First}
    {second : Operation State Second} {next : First → Operation State Later}
    {following : Second → Operation State Last} (alike : Alike results first second)
    (goes : ∀ one other, results one other → Alike others (next one) (following other)) :
    Alike others (first >>= next) (second >>= following) := by
  intro state
  refine Dialogue.Alike.bind (alike state) ?_
  rintro ⟨outcome, after⟩ ⟨given, _⟩ ⟨same, rfl⟩
  cases same with
  | ok same => exact goes _ _ same after
  | error failure => exact .done ⟨.error failure, rfl⟩

/-- After the same operation the rest only has to go alike for each of its results. -/
theorem Alike.after {others : Later → Last → Prop} (operation : Operation State First)
    {next : First → Operation State Later} {following : First → Operation State Last}
    (goes : ∀ one, Alike others (next one) (following one)) :
    Alike others (operation >>= next) (operation >>= following) :=
  Alike.bind (Alike.refl operation) fun one _ same => same ▸ goes one

theorem alike_pure {one : First} {other : Second} (same : results one other) :
    Alike results (pure one : Operation State First) (pure other) :=
  fun _ => .done ⟨.ok same, rfl⟩

theorem alike_throw (failure : Failure) :
    Alike results (throw failure : Operation State First)
      (throw failure : Operation State Second) :=
  fun _ => .done ⟨.error failure, rfl⟩

theorem Alike.attempt {first : Operation State First} {second : Operation State Second}
    (alike : Alike results first second) :
    Alike (Outcomes results) (attempt first) (attempt second) := by
  intro state
  refine Dialogue.Alike.bind (alike state) ?_
  rintro ⟨outcome, after⟩ ⟨given, _⟩ ⟨same, rfl⟩
  exact .done ⟨.ok same, rfl⟩

theorem Alike.within {first : Operation State First} {second : Operation State Second}
    (alike : Alike results first second) (part : Larger → State)
    (update : State → Larger → Larger) :
    Alike results (first.within part update) (second.within part update) := by
  intro larger
  refine Dialogue.Alike.bind (alike (part larger)) ?_
  rintro ⟨outcome, after⟩ ⟨given, _⟩ ⟨same, rfl⟩
  exact .done ⟨same, rfl⟩

theorem alike_ofDialogue {first : Dialogue backends First} {second : Dialogue backends Second}
    (alike : Dialogue.Alike calls results first second) :
    Alike results (ofDialogue first : Operation State First) (ofDialogue second) := by
  intro state
  exact Dialogue.Alike.bind alike fun one other same => .done ⟨.ok same, rfl⟩

theorem alike_askRepository {one other : RepositoryCall}
    {answers : one.Answer → other.Answer → Prop}
    (alike : Call.Alike (.repository one) (.repository other))
    (same : ∀ answer given, HEq answer given → answers answer given) :
    Alike answers (askRepository one : Operation State one.Answer) (askRepository other) :=
  fun _ => .ask alike fun answer given equal => .done ⟨.ok (same answer given equal), rfl⟩

end Operation

/-! ### The agent -/

/-- Two sources that differ only in their destinations, which are alike. -/
structure Source.Alike (first second : Source) : Prop where
  destination : first.destination.Alike second.destination
  snapshot : first.snapshot = second.snapshot

/-- Two published volumes that differ only in the destination that they were filled from. -/
structure Published.Alike (first second : Published) : Prop where
  volume : first.volume = second.volume
  created : first.created = second.created
  restoredFrom : Option.Rel Source.Alike first.restoredFrom second.restoredFrom

/-- Two settings that differ only in their destinations, which are alike one by one. -/
structure Settings.Alike (first second : Settings) : Prop where
  pool : first.pool = second.pool
  staging : first.staging = second.staging
  defaultSize : first.defaultSize = second.defaultSize
  policy : first.policy = second.policy
  destinations : List.Forall₂ Destination.Alike first.destinations second.destinations

/-- Of candidates that are alike the nearest are alike. -/
theorem rel_nearest {First Second : Type} {alike : First → Second → Prop}
    {distance : First → Nat} {length : Second → Nat} {candidates : List First}
    {others : List Second} (each : List.Forall₂ alike candidates others)
    (same : ∀ one other, alike one other → distance one = length other) :
    Option.Rel alike (nearest? distance candidates) (nearest? length others) := by
  have step {best : Option First} {found : Option Second} (bests : Option.Rel alike best found) :
      Option.Rel alike (candidates.foldl (nearer distance) best)
        (others.foldl (nearer length) found) := by
    induction each generalizing best found with
    | nil => exact bests
    | @cons one other rest more here _ inductionHypothesis =>
      refine inductionHypothesis ?_
      cases bests with
      | none => exact .some here
      | @some current kept there =>
        unfold nearer
        dsimp only
        rw [same _ _ here, same _ _ there]
        split
        · exact .some here
        · exact .some there
  exact step .none

namespace Selection

/-- Destinations that are alike and give the same answers report the same snapshot. -/
theorem alike_query {first second : Destination} (alike : first.Alike second) (volume : String)
    (time : Instant) :
    Dialogue.Alike calls Eq (query volume time first) (query volume time second) := by
  refine .ask (.findNearest alike volume time) fun answer given same => ?_
  obtain rfl := eq_of_heq same
  cases answer with
  | ok found => exact .done rfl
  | error failure => exact .done rfl

theorem alike_select {destinations others : List Destination}
    (each : List.Forall₂ Destination.Alike destinations others) (volume : String)
    (time : Instant) :
    Dialogue.Alike calls (Option.Rel Source.Alike) (select volume destinations time)
      (select volume others time) := by
  have reported : Dialogue.Alike calls
      (List.Forall₂ fun one other => Destination.Alike one.1 other.1 ∧ one.2 = other.2)
      (queryAll volume time destinations) (queryAll volume time others) := by
    induction each with
    | nil => exact .done .nil
    | cons alike _ inductionHypothesis =>
      exact (alike_query alike volume time).bind fun found _ same =>
        inductionHypothesis.bind fun reports others rest => .done (.cons ⟨alike, same⟩ rest)
  refine reported.bind fun reports others same => .done ?_
  refine rel_nearest ?_ fun one other (alike : one.Alike other) => by rw [alike.snapshot]
  induction same with
  | nil => exact .nil
  | @cons one other rest more alike _ inductionHypothesis =>
    obtain ⟨destination, found⟩ := one
    obtain ⟨given, _⟩ := other
    obtain ⟨alike, rfl⟩ := alike
    cases found with
    | none => exact inductionHypothesis
    | some snapshot => exact .cons ⟨alike, rfl⟩ inductionHypothesis

end Selection

namespace Restore

open Operation

/-- A volume is filled alike from sources that are alike. -/
theorem alike_restore {one other : Source} (alike : one.Alike other) (pool : ThinPool)
    (volume : String) (volumePoint snapshotPoint : Path) :
    Operation.Alike Eq (restore pool volume one volumePoint snapshotPoint)
      (restore pool volume other volumePoint snapshotPoint) := by
  unfold restore
  refine .after _ fun _ => ?_
  rw [← alike.snapshot]
  refine Alike.bind (alike_askRepository (.mountSnapshot alike.destination ..) fun _ _ => eq_of_heq)
    fun mounted _ same => ?_
  subst same
  split
  · exact .refl _
  · refine .after _ fun copied => ?_
    refine Alike.bind (alike_askRepository (.unmountSnapshot alike.destination ..)
      fun _ _ => eq_of_heq) fun released _ same => ?_
    subst same
    exact .refl _

end Restore

namespace Backup

/-- Backups to destinations that are alike have the same report. -/
theorem alike_backupAll {destinations others : List Destination}
    (each : List.Forall₂ Destination.Alike destinations others) (volume : String) (source : Path)
    (time : Timestamp) :
    Dialogue.Alike calls Eq (backupAll volume source destinations time)
      (backupAll volume source others time) := by
  have reported : Dialogue.Alike calls Eq (backupEach volume source time destinations)
      (backupEach volume source time others) := by
    induction each with
    | nil => exact .done rfl
    | cons alike _ inductionHypothesis =>
      refine .ask (.backup alike volume source time) fun answer given same => ?_
      obtain rfl := eq_of_heq same
      refine inductionHypothesis.bind fun results _ same => .done ?_
      unfold resultOf
      rw [same, alike.repository]
  refine reported.bind fun results _ same => .done ?_
  rw [same]

end Backup

namespace Agent

open Operation

variable {first second : Settings}

theorem Alike.recordingFailure {First Second : Type} {results : First → Second → Prop}
    {one : Operation Agent First} {other : Operation Agent Second}
    (alike : Operation.Alike results one other) (volume : String) :
    Operation.Alike results (recordingFailure volume one) (recordingFailure volume other) := by
  unfold Agent.recordingFailure
  refine alike.attempt.bind fun outcome given same => ?_
  cases same with
  | ok same => exact alike_pure same
  | error failure => exact .after _ fun _ => alike_throw failure

theorem alike_fill (alike : first.Alike second) (now : Instant) (volume : String) :
    Operation.Alike (Option.Rel Source.Alike) (fill first now volume) (fill second now volume) := by
  unfold fill Settings.volumePoint Settings.snapshotPoint
  rw [alike.pool, alike.staging]
  refine .after _ fun _ => ?_
  refine (alike_ofDialogue (Selection.alike_select alike.destinations volume now)).bind
    fun source given same => ?_
  cases same with
  | none => exact .after _ fun _ => alike_pure .none
  | some same =>
    refine .after _ fun _ => ?_
    have restored := Restore.alike_restore same second.pool volume (second.staging.entry volume)
      ((second.staging.entry ".snapshots").entry volume)
    refine (restored.within _ _).attempt.bind fun outcome given ended => ?_
    cases ended with
    | ok _ => exact .after _ fun _ => alike_pure (.some same)
    | error failure => exact .after _ fun _ => alike_throw failure

theorem alike_publishLocked (alike : first.Alike second) (now : Instant) (volume : String)
    (target : Path) (size : Size) :
    Operation.Alike Published.Alike (publishLocked first now volume target size)
      (publishLocked second now volume target size) := by
  unfold publishLocked
  rw [alike.pool, alike.policy]
  refine .after _ fun _ => .after _ fun presence => ?_
  split
  · exact .after _ fun _ => alike_pure ⟨rfl, rfl, .none⟩
  refine .after _ fun agent => ?_
  dsimp only
  have mounts {source given : Option Source} (same : Option.Rel Source.Alike source given) :
      Operation.Alike Published.Alike
        (do
          setPhase volume .finalMounting
          let mounted ← onPool (Pool.ensureMounted second.pool volume target)
          setPhase volume .published
          return ⟨mounted, presence.created, source⟩)
        (do
          setPhase volume .finalMounting
          let mounted ← onPool (Pool.ensureMounted second.pool volume target)
          setPhase volume .published
          return ⟨mounted, presence.created, given⟩) :=
    .after _ fun _ => .after _ fun mounted => .after _ fun _ => alike_pure ⟨rfl, rfl, same⟩
  split
  · exact (alike_fill alike now volume).bind fun _ _ => mounts
  · exact (alike_pure .none).bind fun _ _ => mounts

theorem alike_publish (alike : first.Alike second) (now : Instant) (volume : String)
    (target : Path) (capacity : Option Int) :
    Operation.Alike Published.Alike (publish first now volume target capacity)
      (publish second now volume target capacity) := by
  unfold publish
  rw [alike.defaultSize]
  refine .after _ fun _ => .after _ fun _ => ?_
  dsimp only
  split
  · exact .after _ fun _ => .after _ fun _ =>
      Alike.recordingFailure (alike_publishLocked alike now volume target _) volume
  · exact .after _ fun _ =>
      Alike.recordingFailure (alike_publishLocked alike now volume target _) volume

theorem alike_unpublishLocked (alike : first.Alike second) (now : Instant) (volume : String) :
    Operation.Alike Eq (unpublishLocked first now volume) (unpublishLocked second now volume) := by
  unfold unpublishLocked Settings.volumePoint
  rw [alike.pool, alike.staging]
  refine .after _ fun _ => .after _ fun found => ?_
  dsimp only
  split
  all_goals
    refine .after _ fun current => .after _ fun agent => ?_
    split
    · exact .refl _
    · refine .after _ fun _ => .after _ fun _ => .after _ fun _ => ?_
      refine (alike_ofDialogue (Backup.alike_backupAll alike.destinations volume _ _)).bind
        fun report _ same => ?_
      subst same
      exact .refl _

theorem alike_unpublish (alike : first.Alike second) (now : Instant) (volume : String)
    (target : Path) :
    Operation.Alike Eq (unpublish first now volume target)
      (unpublish second now volume target) := by
  unfold unpublish
  refine .after _ fun _ => .after _ fun _ => .after _ fun _ => ?_
  refine (Alike.recordingFailure (alike_unpublishLocked alike now volume) volume).attempt.bind
    fun outcome _ same => ?_
  rw [outcomes_eq_iff.1 same]
  exact .refl _

end Agent

/-! ### Requests and their answers -/

/-- Two replies that differ only in the destination that a volume was filled from. -/
inductive Reply.Alike : Reply → Reply → Prop where
  | published {first second : Published} (alike : first.Alike second) :
      Alike (.published first) (.published second)
  | released (given : Released) : Alike (.released given) (.released given)

variable {first second : Settings}

theorem Request.alike_operation (alike : first.Alike second) (request : Request) :
    Operation.Alike Reply.Alike (request.operation first) (request.operation second) := by
  cases request with
  | publish now volume target capacity =>
    exact (Agent.alike_publish alike now volume target capacity).bind
      fun _ _ same => Operation.alike_pure (.published same)
  | unpublish now volume target =>
    refine (Agent.alike_unpublish alike now volume target).bind fun given _ same => ?_
    subst same
    exact Operation.alike_pure (.released given)

namespace Rpc

/-- Replies that are alike are told in the same words. -/
theorem payloadOf_congr {one other : Reply} (alike : one.Alike other) (request : Request) :
    payloadOf request one = payloadOf request other := by
  cases alike with
  | released given => rfl
  | @published first second same =>
    obtain ⟨volume, created, restoredFrom⟩ := first
    obtain ⟨_, _, givenFrom⟩ := second
    obtain ⟨rfl, rfl, same⟩ := same
    unfold payloadOf publishResponse
    cases same with
    | none => rfl
    | some same => simp only [Option.map_some, same.destination.repository, same.snapshot]

theorem alike_answer (alike : first.Alike second) (now : Instant) (message : Message)
    (agent : Agent) :
    Dialogue.Alike calls Eq ((answer first now message).run agent)
      ((answer second now message).run agent) := by
  rw [run_answer, run_answer]
  cases understand now message with
  | error refusal => exact .done rfl
  | ok request =>
    refine (Request.alike_operation alike request agent).bind ?_
    rintro ⟨outcome, after⟩ ⟨given, _⟩ ⟨same, rfl⟩
    refine .done ?_
    cases same with
    | error failure => rfl
    | @ok reply other same =>
      show (Message.response message.id (payloadOf request reply), after) =
        (Message.response message.id (payloadOf request other), after)
      rw [payloadOf_congr same]

/-- Answers messages, each at its time, one after another. -/
def answerEach (settings : Settings) :
    List (Instant × Message) → StateT Agent (Dialogue backends) (List Message)
  | [] => return []
  | (now, message) :: rest => do
    let answered ← answer settings now message
    let others ← answerEach settings rest
    return answered :: others

/-- Requests that arrive over a connection are answered so. -/
theorem answerAll_eq (settings : Settings) (now : Instant) (requests : List Message) :
    Session.answerAll settings now requests = answerEach settings (requests.map (now, ·)) := by
  induction requests with
  | nil => rfl
  | cons request rest inductionHypothesis =>
    unfold Session.answerAll
    rw [inductionHypothesis]
    rfl

theorem alike_answerEach (alike : first.Alike second) (visits : List (Instant × Message))
    (agent : Agent) :
    Dialogue.Alike calls Eq ((answerEach first visits).run agent)
      ((answerEach second visits).run agent) := by
  induction visits generalizing agent with
  | nil => exact .done rfl
  | cons visit rest inductionHypothesis =>
    obtain ⟨now, message⟩ := visit
    refine (alike_answer alike now message agent).bind ?_
    rintro ⟨answered, after⟩ _ rfl
    refine (inductionHypothesis after).bind ?_
    rintro ⟨others, last⟩ _ rfl
    exact .done rfl

end Rpc

/-! ### Serving -/

namespace Tools.Toolbox

/-- Exchanges that are alike are served alike. -/
theorem Served.alike {toolbox : Toolbox} {servers last : Servers}
    {exchanges others : List (Exchange backends)} {heard : List (Exchange host)}
    (served : Served toolbox servers exchanges heard last)
    (each : List.Forall₂ (Exchange.Alike calls) exchanges others) :
    ∃ given, Served toolbox servers others given last ∧
      List.Forall₂ (Exchange.Alike hostCalls) heard given := by
  induction served generalizing others with
  | nil servers =>
    cases each
    exact ⟨[], .nil servers, .nil⟩
  | cons call answer held _ inductionHypothesis =>
    cases each with
    | @cons _ other _ _ same each =>
      obtain ⟨asked, told⟩ := other
      obtain ⟨question, equal⟩ := same
      obtain ⟨rests, served, alike⟩ := inductionHypothesis each
      obtain ⟨given, ⟨reply, left⟩, held, others, replied, rfl⟩ :=
        (alike_answer question toolbox _).held held
      obtain rfl : told = reply := eq_of_heq (equal.symm.trans replied)
      exact ⟨_, .cons asked told held served, List.rel_append others alike⟩

/-- A dialogue that is served by the tools takes the course that the answers of the host give
it. -/
theorem Served.unique {Result : Type} {toolbox : Toolbox} {servers last left : Servers}
    {dialogue : Dialogue backends Result} {exchanges others : List (Exchange backends)}
    {heard given : List (Exchange host)} {result ended : Result}
    (held : Dialogue.Held dialogue exchanges result) (again : Dialogue.Held dialogue others ended)
    (served : Served toolbox servers exchanges heard last)
    (further : Served toolbox servers others given left) (agree : Dialogue.Agree heard given) :
    exchanges = others ∧ heard = given ∧ result = ended ∧ last = left := by
  induction held generalizing others servers heard given with
  | done result =>
    cases again
    cases served
    cases further
    exact ⟨rfl, rfl, rfl, rfl⟩
  | ask answer held inductionHypothesis =>
    cases again with
    | ask reply again =>
      cases served with
      | cons _ _ first served =>
        cases further with
        | cons _ _ second further =>
          obtain ⟨rfl, same, agree⟩ := first.unique second agree
          obtain ⟨rfl, rfl⟩ := Prod.mk.inj same
          obtain ⟨rfl, rfl, rfl, rfl⟩ := inductionHypothesis again served further agree
          exact ⟨rfl, rfl, rfl, rfl⟩

end Tools.Toolbox

/-! ### Runs -/

/-- A question to the host that starts nothing, because what it is to start holds a null
character. -/
def HostCall.Refused : HostCall → Prop
  | run invocation _ | start invocation => invocation.holdsNull = true
  | _ => False

/-- The words of a command, and what is shown of it. -/
def Invocation.commandLine (invocation : Invocation) : List String × String :=
  (invocation.program :: invocation.arguments, invocation.text)

theorem Invocation.Alike.commandLine {one other : Invocation} (alike : one.Alike other) :
    one.commandLine = other.commandLine := by
  unfold Invocation.commandLine
  rw [alike.program, alike.arguments, alike.text]

/-- The command line of what a question to the host is to start. -/
def HostCall.commandLine? : HostCall → Option (List String × String)
  | run invocation _ | start invocation => some invocation.commandLine
  | _ => none

theorem HostCall.Alike.commandLine {one other : HostCall} (alike : one.Alike other) :
    one.commandLine? = other.commandLine? := by
  cases alike with
  | same call => rfl
  | run alike limit | start alike => exact congrArg some alike.commandLine

/-- An answer that a host can give: it starts nothing that holds a null character. -/
def Exchange.Real : Exchange host → Prop
  | ⟨.run invocation _, answer⟩ =>
    invocation.holdsNull = true → answer = Outcome.unstarted .nullInInvocation
  | ⟨.start invocation, answer⟩ =>
    invocation.holdsNull = true → answer = (.error .nullInInvocation : Except SystemFault Child)
  | _ => True

/-- A run of the agent with its tools: what the agent asked them, what they asked the host, how the
messages were answered, and what there is in the end. -/
structure Service where
  exchanges : List (Exchange backends)
  heard : List (Exchange host)
  answers : List Rpc.Message
  agent : Agent
  servers : Servers

namespace Service

/-- The command lines of a run. -/
def commands (service : Service) : List (List String × String) :=
  service.heard.filterMap fun exchange => exchange.question.commandLine?

/-- A run that some messages can have. -/
structure Happens (settings : Settings) (toolbox : Toolbox) (servers : Servers) (agent : Agent)
    (visits : List (Instant × Rpc.Message)) (service : Service) : Prop where
  held : Dialogue.Held ((Rpc.answerEach settings visits).run agent) service.exchanges
    (service.answers, service.agent)
  served : toolbox.Served servers service.exchanges service.heard service.servers
  real : ∀ exchange ∈ service.heard, exchange.Real

/-- Two runs in which the host gave the same answers, but for programs that it did not start. -/
def SameResults (first second : Service) : Prop :=
  ∀ (place : Nat) (one other : Exchange host), first.heard[place]? = some one →
    second.heard[place]? = some other → ¬one.question.Refused → ¬other.question.Refused →
      HEq one.answer other.answer

/-- Two runs that differ only in the environments of the backup program. -/
structure Alike (first second : Service) : Prop where
  answers : first.answers = second.answers
  agent : first.agent = second.agent
  servers : first.servers = second.servers
  exchanges : List.Forall₂ (Exchange.Alike calls) first.exchanges second.exchanges
  heard : List.Forall₂ (Exchange.Alike hostCalls) first.heard second.heard

/-- Runs that are alike have the same command lines. -/
theorem Alike.commands {first second : Service} (alike : first.Alike second) :
    first.commands = second.commands := by
  unfold Service.commands
  have each := alike.heard
  generalize first.heard = heard at each
  generalize second.heard = others at each
  induction each with
  | nil => rfl
  | cons same _ inductionHypothesis =>
    rw [List.filterMap_cons, List.filterMap_cons, same.question.commandLine, inductionHypothesis]

end Service

/-! ### What the host sees -/

namespace Exchange

variable {one other : Exchange host}

/-- A host that can give an answer can give it to a question that is alike. -/
theorem Alike.real (alike : one.Alike hostCalls other) (real : one.Real) : other.Real := by
  obtain ⟨asked, answer⟩ := one
  obtain ⟨_, given⟩ := other
  obtain ⟨question, same⟩ := alike
  cases question with
  | same call =>
    obtain rfl := eq_of_heq same
    exact real
  | run alike limit | start alike =>
    obtain rfl := eq_of_heq same
    exact fun null => real (alike.null.trans null)

theorem Alike.refused_iff (alike : one.Alike hostCalls other) :
    one.question.Refused ↔ other.question.Refused := by
  obtain ⟨asked, answer⟩ := one
  obtain ⟨_, given⟩ := other
  obtain ⟨question, same⟩ := alike
  cases question with
  | same call => exact Iff.rfl
  | run alike limit | start alike => exact iff_of_eq (congrArg (· = true) alike.null)

/-- Only one answer can be given where nothing is started. -/
theorem eq_of_refused {asked : HostCall} {answer given : asked.Answer} (refused : asked.Refused)
    (first : Exchange.Real ⟨asked, answer⟩) (second : Exchange.Real ⟨asked, given⟩) :
    answer = given := by
  cases asked with
  | run invocation limit => exact (first refused).trans (second refused).symm
  | start invocation => exact (first refused).trans (second refused).symm
  | poll | kill | reap | pause | makeDirectories | isThere => exact refused.elim

end Exchange

namespace Service

variable {first second : Settings} {toolbox : Toolbox} {servers : Servers} {agent : Agent}
  {visits : List (Instant × Rpc.Message)} {service other : Service}

/-- A run is matched by one with destinations that are alike. -/
theorem Happens.matched (happens : service.Happens first toolbox servers agent visits)
    (alike : first.Alike second) :
    ∃ other, other.Happens second toolbox servers agent visits ∧ service.Alike other := by
  obtain ⟨exchanges, heard, answers, after, last⟩ := service
  obtain ⟨held, served, real⟩ := happens
  obtain ⟨others, _, matched, each, rfl⟩ := (Rpc.alike_answerEach alike visits agent).held held
  obtain ⟨given, further, hosts⟩ := served.alike each
  have possible : ∀ exchange ∈ given, exchange.Real := by
    dsimp only at hosts real
    clear * - hosts real
    induction hosts with
    | nil => exact fun _ member => nomatch member
    | cons same _ inductionHypothesis =>
      obtain ⟨here, later⟩ := List.forall_mem_cons.1 real
      exact List.forall_mem_cons.2 ⟨same.real here, inductionHypothesis later⟩
  exact ⟨⟨others, given, answers, after, last⟩, ⟨matched, further, possible⟩, rfl, rfl, rfl, each,
    hosts⟩

theorem Alike.sameResults (alike : service.Alike other) : service.SameResults other := by
  intro place one given here there _ _
  obtain ⟨small, rfl⟩ := List.getElem?_eq_some_iff.1 here
  obtain ⟨less, rfl⟩ := List.getElem?_eq_some_iff.1 there
  exact (alike.heard.get small less).answer

/-- A run that has the same results as another agrees with what matches that. -/
theorem Alike.agree {matching : Service} (alike : service.Alike matching)
    (results : service.SameResults other) (real : ∀ exchange ∈ matching.heard, exchange.Real)
    (possible : ∀ exchange ∈ other.heard, exchange.Real) :
    Dialogue.Agree matching.heard other.heard := by
  intro place asked answer given here there
  obtain ⟨small, found⟩ := List.getElem?_eq_some_iff.1 here
  have less : place < service.heard.length := alike.heard.length_eq ▸ small
  have same := alike.heard.get less small
  rw [List.get_eq_getElem, List.get_eq_getElem, found] at same
  by_cases refused : asked.Refused
  · exact Exchange.eq_of_refused refused (real _ (List.mem_of_getElem? here))
      (possible _ (List.mem_of_getElem? there))
  · have started := same.refused_iff.not.2 refused
    exact eq_of_heq (same.answer.symm.trans
      (results place _ _ (List.getElem?_eq_getElem less) there started refused))

/-- The answers of the host decide what a run is. -/
theorem Happens.unique (happens : service.Happens first toolbox servers agent visits)
    (again : other.Happens first toolbox servers agent visits)
    (agree : Dialogue.Agree service.heard other.heard) : service = other := by
  obtain ⟨exchanges, heard, answers, after, last⟩ := service
  obtain ⟨others, given, told, left, gone⟩ := other
  obtain ⟨rfl, rfl, same, rfl⟩ :=
    happens.served.unique happens.held again.held again.served agree
  cases same
  rfl

/-- Two settings whose destinations differ only in the values of their environments, and messages
that are answered with each. Every run with the one is matched by a run with the other; and where
the host gives the same answers in two runs, all is the same in them but what the backup program
finds in its environment. Destinations are shown alike too. -/
theorem secrets_concealed (alike : first.Alike second) (toolbox : Toolbox) (servers : Servers)
    (agent : Agent) (visits : List (Instant × Rpc.Message)) :
    first.destinations.map Destination.text = second.destinations.map Destination.text ∧
    ∀ service : Service, service.Happens first toolbox servers agent visits →
      (∃ other : Service, other.Happens second toolbox servers agent visits ∧
        service.SameResults other) ∧
      ∀ other : Service, other.Happens second toolbox servers agent visits →
        service.SameResults other →
        service.Alike other ∧ service.commands = other.commands := by
  constructor
  · exact alike.destinations.rec rfl fun same _ rest => congrArg₂ List.cons same.text rest
  intro service happens
  obtain ⟨matching, matched, same⟩ := happens.matched alike
  refine ⟨⟨matching, matched, same.sameResults⟩, fun other again results => ?_⟩
  obtain rfl := matched.unique again (same.agree results matched.real again.real)
  exact ⟨same, same.commands⟩

end Service

/-! ### Scripted runs -/

namespace Memory

theorem ScriptedHost.launch_of_null (world : ScriptedHost) {invocation : Invocation}
    (null : invocation.holdsNull = true) :
    world.launch invocation = (.unstarted .nullInInvocation, world) := if_pos null

/-- A scripted host gives answers that a host can give. -/
theorem ScriptedHost.real_answer (world : ScriptedHost) (call : HostCall) :
    Exchange.Real ⟨call, (ScriptedHost.answer call world).1⟩ := by
  cases call with
  | run invocation limit | start invocation =>
    intro null
    simp only [ScriptedHost.answer, world.launch_of_null null]
    rfl
  | poll | kill | reap | pause | makeDirectories | isThere => trivial

/-- What is held with a scripted host is a conversation that can be had with a host. -/
theorem ScriptedHost.held_hold {Result : Type} (world : ScriptedHost)
    (dialogue : Dialogue host Result) :
    ∃ heard, Dialogue.Held dialogue heard (world.hold dialogue).1 ∧
      ∀ exchange ∈ heard, exchange.Real := by
  induction dialogue generalizing world with
  | done result => exact ⟨[], .done result, fun _ member => nomatch member⟩
  | ask asked next inductionHypothesis =>
    obtain ⟨heard, held, real⟩ :=
      inductionHypothesis (ScriptedHost.answer asked world).1 (ScriptedHost.answer asked world).2
    exact ⟨_, .ask _ held, List.forall_mem_cons.2 ⟨world.real_answer asked, real⟩⟩

/-- Messages are answered with the tools. -/
def serving (settings : Settings) (toolbox : Toolbox) (servers : Servers) (agent : Agent)
    (visits : List (Instant × Rpc.Message)) :
    Dialogue host ((List Rpc.Message × Agent) × Servers) :=
  (@Dialogue.answerBy backends (List Rpc.Message × Agent) (StateT Servers (Dialogue host)) _
    toolbox.answer ((Rpc.answerEach settings visits).run agent)).run servers

/-- What happens on a scripted host is a run. -/
theorem ScriptedHost.happens_hold (world : ScriptedHost) (settings : Settings) (toolbox : Toolbox)
    (servers : Servers) (agent : Agent) (visits : List (Instant × Rpc.Message)) :
    ∃ service : Service, service.Happens settings toolbox servers agent visits ∧
      service.answers = (world.hold (serving settings toolbox servers agent visits)).1.1.1 := by
  obtain ⟨heard, held, real⟩ := world.held_hold (serving settings toolbox servers agent visits)
  obtain ⟨exchanges, conversation, served⟩ := Toolbox.held_answerBy_iff.1 held
  exact ⟨⟨exchanges, heard, _, _, _⟩, ⟨conversation, served, real⟩, rfl⟩

/-! ### A secret with a null character -/

/-- Settings with one destination, which has one secret. -/
def secretSettings (secret : String) : Settings :=
  ⟨⟨"vg0", "pool"⟩, ⟨"/staging"⟩, ⟨1⟩, .onCreate, [⟨"repo-a", .ofList [("KEY", secret)]⟩]⟩

/-- A request to release a volume. -/
def secretVisit : Instant × Rpc.Message :=
  (⟨0⟩, .request "1" Rpc.unpublishMethod
    (.object [("target_path", .text "/mnt/a"), ("volume_id", .text "pg")]))

/-- Tools for the small settings. -/
def secretTools : Toolbox := ⟨1000, ⟨"node-a", 1000⟩⟩

/-- A host on which a volume is found to be mounted first, then not to be, then to be mounted at the
staging path. From then on all programs write the same. -/
def secretHost : ScriptedHost :=
  let writes (text : String) : ScriptLine := .ends ⟨some 0, Text.octets text, []⟩
  let volume := "\x7b\"lv_name\": \"pg\", \"vg_name\": \"vg0\", \"lv_attr\": \"V\", " ++
    "\"lv_size\": \"1B\"\x7d"
  let listing := writes ("\x7b\"report\": [\x7b\"lv\": [" ++ volume ++ "]\x7d]\x7d")
  let elsewhere := writes "/mnt/a\n"
  let nowhere : ScriptLine := .ends ⟨some 1, [], []⟩
  .begin ([listing, elsewhere, listing, elsewhere, elsewhere, writes "", listing, nowhere, listing,
    nowhere, nowhere, writes "", listing, writes "/staging/pg\n"] ++ List.replicate 7 listing) []

/-- The answers where the destination has a secret. -/
def secretAnswers (secret : String) : List Rpc.Message :=
  (secretHost.hold (serving (secretSettings secret) secretTools .empty (.fresh .empty)
    [secretVisit])).1.1.1

/-- The same requests are answered otherwise where a secret holds a null character, although every
program that is started comes to the same. -/
theorem null_in_secret_shows :
    (secretSettings "a").destinations.map (fun destination =>
        (destination.repository, destination.environment.keys)) =
      (secretSettings "\x00").destinations.map (fun destination =>
        (destination.repository, destination.environment.keys)) ∧
    secretAnswers "a" ≠ secretAnswers "\x00" := by
  -- The release without a backup is told with warnings.
  let warns (message : Rpc.Message) : Bool :=
    (message.payload.bind fun payload => payload.member? "warnings").isSome
  have without : (secretAnswers "a").map warns = [false] := by decide +kernel
  have warned : (secretAnswers "\x00").map warns = [true] := by decide +kernel
  refine ⟨by decide +kernel, fun same => ?_⟩
  rw [same, warned] at without
  cases without

/-! ### Secrets without null characters -/

theorem secretSettings_alike {secret other : String} (same : SameNull secret other) :
    (secretSettings secret).Alike (secretSettings other) where
  pool := rfl
  staging := rfl
  defaultSize := rfl
  policy := rfl
  destinations := .cons (Destination.alike_of_rel rfl (.cons ⟨rfl, same⟩ .nil)) .nil

/-- Two secrets that nobody can tell apart on the small host. -/
theorem small_secrets_concealed :
    ∃ service : Service, service.answers = secretAnswers "a" ∧
      service.Happens (secretSettings "a") secretTools .empty (.fresh .empty) [secretVisit] ∧
      (∃ other : Service, other.Happens (secretSettings "b") secretTools .empty (.fresh .empty)
        [secretVisit] ∧ service.SameResults other) ∧
      ∀ other : Service, other.Happens (secretSettings "b") secretTools .empty (.fresh .empty)
        [secretVisit] → service.SameResults other →
          service.Alike other ∧ service.commands = other.commands := by
  obtain ⟨service, happens, answered⟩ := secretHost.happens_hold (secretSettings "a") secretTools
    .empty (.fresh .empty) [secretVisit]
  have alike : (secretSettings "a").Alike (secretSettings "b") :=
    secretSettings_alike (by unfold SameNull; decide +kernel)
  have concealed := Service.secrets_concealed alike secretTools .empty (.fresh .empty) [secretVisit]
  exact ⟨service, answered, happens, concealed.2 service happens⟩

end Memory

end NodeAgent
