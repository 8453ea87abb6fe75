/-
This file shows that a connection answers each request once. Every run of it ends, since each step
leaves less to do; when nothing is left to do everything is sent; and what is sent is accounted for.
Serving the requests one after another is one of the runs.
-/

import NodeAgent.Proofs.Connection
import NodeAgent.Proofs.Spelling

namespace NodeAgent.Rpc

open Relation

/-! ### Every run ends -/

/-- From a collection an element can be removed. -/
theorem cutExpand_remove {Element : Type} {less : Element → Element → Prop} (one : Element)
    (others : Multiset Element) : CutExpand less others (one ::ₘ others) := by
  have removed : CutExpand less 0 {one} := cutExpand_singleton nofun
  simpa only [zero_add, Multiset.singleton_add] using (cutExpand_add_right others).2 removed

namespace Task

/-- The task can be the same task later. -/
inductive Later (settings : Settings) : Task → Task → Prop where
  | understood {frame message request} :
      Later settings (.working message (.arriving request)) (.received frame)
  | works {message case next} (later : Ongoing.Later settings next.call case.call) :
      Later settings (.working message next) (.working message case)
  | refused {frame reply} : Later settings (.replying reply) (.received frame)
  | concluded {message case reply} : Later settings (.replying reply) (.working message case)

variable {settings : Settings}

theorem acc_replying (reply : Message) : Acc (Later settings) (.replying reply) :=
  ⟨_, fun _ later => nomatch later⟩

theorem acc_working (message : Message) (case : Case) :
    Acc (Later settings) (.working message case) := by
  induction case using (InvImage.wf Case.call (Ongoing.wellFounded_later settings)).induction with
  | _ case inductionHypothesis =>
    refine ⟨_, fun next later => ?_⟩
    cases later with
    | works later => exact inductionHypothesis _ later
    | concluded => exact acc_replying _

theorem wellFounded_later : WellFounded (Later settings) := by
  refine ⟨fun task => ?_⟩
  cases task with
  | replying reply => exact acc_replying reply
  | working message case => exact acc_working message case
  | received frame =>
    refine ⟨_, fun next later => ?_⟩
    cases later with
    | understood => exact acc_working _ _
    | refused => exact acc_replying _

theorem Handles.later {shared after : Shared} {task next : Task}
    (handles : task.Handles settings shared after next) : Later settings next task := by
  cases handles with
  | understands => exact .understood
  | works works => exact .works ⟨_, _, works.1⟩

theorem Answers.later {shared after : Shared} {task : Task} {message reply : Message}
    (answers : task.Answers settings shared message after reply) :
    Later settings (.replying reply) task := by
  cases answers with
  | refuses => exact .refused
  | concludes => exact .concluded

end Task

/-- How much the connection itself has still to do. -/
def Link.remaining : Link → Nat
  | opening arrivals => arrivals.length + 3
  | awaiting arrivals => arrivals.length + 2
  | serving arrivals => arrivals.length + 1
  | closed _ => 0

theorem Link.remaining_decided (arrivals : List Arrival) :
    (decided arrivals).remaining < arrivals.length + 2 := by
  unfold decided
  cases Session.accepted arrivals with
  | ok _ =>
    show arrivals.tail.length + 1 < _
    rw [List.length_tail]
    omega
  | error fault => exact Nat.succ_pos _

namespace Connection

variable {settings : Settings} {first : Message} {before after connection : Connection}
  {start : Traffic} {arrivals : List Arrival}

/-- What is still to do: for the connection itself, for its tasks, for the earlier calls, and in the
queue. -/
def remaining (connection : Connection) : Nat × Multiset Task × Multiset Ongoing × Nat :=
  (connection.link.remaining, connection.tasks, connection.earlier, connection.queue.length)

/-- There is less to do, where what comes first counts for more: only the connection itself adds
tasks, only tasks add to the queue. -/
def Less (settings : Settings) :
    Nat × Multiset Task × Multiset Ongoing × Nat → Nat × Multiset Task × Multiset Ongoing × Nat →
      Prop :=
  Prod.Lex (· < ·) (Prod.Lex (CutExpand (Task.Later settings))
    (Prod.Lex (CutExpand (Ongoing.Later settings)) (· < ·)))

theorem wellFounded_less : WellFounded (Less settings) :=
  Nat.lt_wfRel.wf.prod_lex (Task.wellFounded_later.cutExpand.prod_lex
    ((Ongoing.wellFounded_later settings).cutExpand.prod_lex Nat.lt_wfRel.wf))

/-- Each step leaves less to do. -/
theorem Step.less (step : Step settings first before after) :
    Less settings after.remaining before.remaining := by
  unfold remaining
  cases step with
  | registers opening =>
    rw [opening]
    exact .left _ _ (Nat.lt_succ_self _)
  | decides awaiting =>
    rw [awaiting]
    exact .left _ _ (Link.remaining_decided _)
  | receives serving =>
    rw [serving]
    exact .left _ _ (Nat.lt_succ_self _)
  | stops serving =>
    rw [serving]
    exact .left _ _ (Nat.succ_pos _)
  | ignores has | queues has =>
    rw [has]
    exact .right _ (.left _ _ (cutExpand_remove _ _))
  | handles has handles =>
    rw [has, ← Multiset.singleton_add, ← Multiset.singleton_add]
    exact .right _ (.left _ _ (cutExpand_single_add handles.later _))
  | answers has answers =>
    rw [has, ← Multiset.singleton_add, ← Multiset.singleton_add]
    exact .right _ (.left _ _ (cutExpand_single_add answers.later _))
  | proceeds has proceeds =>
    rw [has, ← Multiset.singleton_add, ← Multiset.singleton_add]
    exact .right _ (.right _ (.left _ _ (cutExpand_single_add ⟨_, _, proceeds⟩ _)))
  | finishes has =>
    rw [has]
    exact .right _ (.right _ (.left _ _ (cutExpand_remove _ _)))
  | sends queued =>
    rw [queued]
    exact .right _ (.right _ (.right _ (Nat.lt_succ_self _)))

theorem wellFounded_step (settings : Settings) (first : Message) :
    WellFounded fun later earlier => Step settings first earlier later :=
  Subrelation.wf Step.less (InvImage.wf remaining wellFounded_less)

/-! ### When nothing is left to do -/

/-- A connection whose link is not closed can take a step of its own. -/
theorem Over.closed (done : connection.Over settings first) :
    ∃ registered, connection.link = .closed registered := by
  cases link : connection.link with
  | opening arrivals => exact absurd (.registers link) (done _)
  | awaiting arrivals => exact absurd (.decides link) (done _)
  | closed registered => exact ⟨registered, rfl⟩
  | serving rest =>
    match rest with
    | [] | .fault :: _ => exact absurd (.stops link (fun _ => nofun)) (done _)
    | .frame frame :: _ => exact absurd (.receives link) (done _)

/-- No call is left, since one of them could take a step. -/
theorem Over.calls_eq (done : connection.Over settings first)
    (sound : Sound connection.shared connection.calls)
    (tasks : ∀ task ∈ connection.tasks, task.InOrder settings) : connection.calls = 0 := by
  refine Multiset.eq_zero_of_forall_notMem fun call member => ?_
  obtain ⟨ready, there, steps⟩ := sound.tallied.exists_ready settings member
  -- The step that the call can take is one of its task or of the earlier calls.
  rcases Multiset.mem_add.1 there with own | earlier
  · obtain ⟨task, inTasks, works⟩ := (Multiset.mem_filterMap _ _).1 own
    obtain ⟨others, has⟩ := Multiset.exists_cons_of_mem inTasks
    cases tasks task inTasks with
    | received | replying => cases works
    | working understood inOrder =>
      cases works
      rcases steps with ⟨after, next, proceeds⟩ | ⟨after, finishes⟩
      · have works : Case.Works settings connection.shared _ after ⟨next, _⟩ := ⟨proceeds, rfl⟩
        exact done _ (.handles has (.works works))
      · obtain ⟨outcome, ends⟩ := inOrder.exists_ends finishes
        exact done _ (.answers has (.concludes ends))
  · obtain ⟨others, has⟩ := Multiset.exists_cons_of_mem earlier
    rcases steps with ⟨after, next, proceeds⟩ | ⟨after, finishes⟩
    · exact done _ (.proceeds has proceeds)
    · exact done _ (.finishes has finishes)

theorem Over.tasks_eq (done : connection.Over settings first)
    (sound : Sound connection.shared connection.calls)
    (tasks : ∀ task ∈ connection.tasks, task.InOrder settings) : connection.tasks = 0 := by
  have noCalls := done.calls_eq sound tasks
  refine Multiset.eq_zero_of_forall_notMem fun task member => ?_
  obtain ⟨others, has⟩ := Multiset.exists_cons_of_mem member
  cases task with
  | replying reply => exact done _ (.queues has)
  | working message case =>
    unfold calls at noCalls
    rw [has, calls_cons_some rfl] at noCalls
    exact Multiset.cons_ne_zero noCalls
  | received frame =>
    cases asked : frame.request? with
    | none => exact done _ (.ignores has asked)
    | some message =>
      cases understood : understand ⟨0⟩ message with
      | error refusal => exact done _ (.answers has (.refuses asked understood))
      | ok request => exact done _ (.handles has (.understands asked understood))

theorem Over.queue_eq (done : connection.Over settings first) : connection.queue = [] := by
  cases queued : connection.queue with
  | nil => rfl
  | cons reply rest => exact absurd (.sends queued) (done _)

/-- Every connection can be brought to an end. -/
theorem exists_over (settings : Settings) (first : Message) (connection : Connection) :
    ∃ last, Steps settings first connection last ∧ last.Over settings first := by
  induction connection using (wellFounded_step settings first).induction with
  | _ connection inductionHypothesis =>
    by_cases done : connection.Over settings first
    · exact ⟨connection, .refl, done⟩
    · unfold Over at done
      push Not at done
      obtain ⟨later, step⟩ := done
      obtain ⟨last, steps, done⟩ := inductionHypothesis later step
      exact ⟨last, .head step steps, done⟩

/-! ### One request after another -/

/-- A connection at which nothing is at work. -/
def idle (shared : Shared) (link : Link) (answered : Multiset (Message × Message))
    (sent : List Frame) : Connection :=
  ⟨shared, 0, link, 0, answered, [], sent⟩

/-- A connection at which one task is at work. -/
def handling (task : Task) (shared : Shared) (link : Link)
    (answered : Multiset (Message × Message)) (sent : List Frame) : Connection :=
  ⟨shared, 0, link, task ::ₘ 0, answered, [], sent⟩

variable {shared : Shared} {link : Link} {answered : Multiset (Message × Message)}
  {sent : List Frame} {now : Instant} {exchanges : List (Exchange backends)} {last : Agent}

theorem over_idle {registered : Except RegistrationFault Unit} :
    (idle shared (.closed registered) answered sent).Over settings first := by
  intro later step
  cases step with
  | registers impossible | decides impossible | receives impossible | stops impossible
  | sends impossible => cases impossible
  | ignores has | handles has | answers has | queues has => exact Multiset.zero_ne_cons has
  | proceeds has | finishes has => exact Multiset.zero_ne_cons has

theorem step_receives {frame : Frame} {rest : List Arrival} :
    Step settings first (idle shared (.serving (.frame frame :: rest)) answered sent)
      (handling (.received frame) shared (.serving rest) answered sent) :=
  .receives rfl

/-- A frame without a request is received and forgotten. -/
theorem steps_of_ignored {frame : Frame} {rest : List Arrival} (nothing : frame.request? = none) :
    Steps settings first (idle shared (.serving (.frame frame :: rest)) answered sent)
      (idle shared (.serving rest) answered sent) :=
  .head step_receives (.single (.ignores rfl nothing))

/-- An answer that is there is queued and sent. -/
theorem steps_of_replying (reply : Message) :
    Steps settings first (handling (.replying reply) shared link answered sent)
      (idle shared link answered (sent ++ [reply.frame])) :=
  .head (.queues rfl) (.single (.sends rfl))

/-- How a call goes on alone is one of the ways in which its task can go on. -/
theorem steps_of_goes {start ended : Shared × Case} (goes : Traffic.Goes settings start ended)
    (message : Message) :
    Steps settings first (handling (.working message start.2) start.1 link answered sent)
      (handling (.working message ended.2) ended.1 link answered sent) := by
  induction goes with
  | refl => exact .refl
  | tail _ works inductionHypothesis =>
    exact inductionHypothesis.tail (.handles rfl (.works works))

/-- A request that is received when nothing is at work can be answered as the agent alone does. -/
theorem steps_of_answered {frame : Frame} {rest : List Arrival} {message reply : Message}
    (sound : Sound shared 0) (asked : frame.request? = some message)
    (answers : Answers settings now message shared.agent exchanges reply last) :
    ∃ final : Shared, final.agent = last ∧
      Steps settings first (idle shared (.serving (.frame frame :: rest)) answered sent)
        (idle final (.serving rest) ((message, reply) ::ₘ answered) (sent ++ [reply.frame])) := by
  cases answers with
  | @refused refusal refused =>
    have answering : Step settings first
        (handling (.received frame) shared (.serving rest) answered sent)
        (handling (.replying (.refuse message.id refusal)) shared (.serving rest)
          ((message, .refuse message.id refusal) ::ₘ answered) sent) :=
      .answers rfl (.refuses asked refused)
    exact ⟨shared, rfl, .head step_receives (.head answering (steps_of_replying _))⟩
  | @concluded request _ outcome _ understood conversation =>
    obtain ⟨middle, case, final, goes, ends, same⟩ := Traffic.goes_of_converses sound conversation
    have beginning : Step settings first
        (handling (.received frame) shared (.serving rest) answered sent)
        (handling (.working message (.arriving request)) shared (.serving rest) answered sent) :=
      .handles rfl (.understands asked understood)
    have answering : Step settings first
        (handling (.working message case) middle (.serving rest) answered sent)
        (handling (.replying (conclude message.id case.call.request outcome)) final
          (.serving rest) ((message, conclude message.id case.call.request outcome) ::ₘ answered)
          sent) :=
      .answers rfl (.concludes ends)
    have sameRequest : case.call.request = request := goes.request_eq
    rw [sameRequest] at answering
    exact ⟨final, same, .head step_receives (.head beginning
      ((steps_of_goes goes message).trans (.head answering (steps_of_replying _))))⟩

theorem step_stops {rest : List Arrival} (noFrame : ∀ frame, rest.head? ≠ some (.frame frame)) :
    Step settings first (idle shared (.serving rest) answered sent)
      (idle shared (.closed (.ok ())) answered sent) :=
  .stops rfl noFrame

/-- The requests can be answered one after another. -/
theorem steps_of_answerAll {rest : List Arrival} {replies : List Message} (sound : Sound shared 0)
    (held : Dialogue.Held ((Session.answerAll settings now (Session.requests rest)).run
      shared.agent) exchanges (replies, last)) :
    ∃ (final : Shared) (all : Multiset (Message × Message)), final.agent = last ∧
      Steps settings first (idle shared (.serving rest) answered sent)
        (idle final (.closed (.ok ())) all (sent ++ replies.map Message.frame)) := by
  induction rest generalizing shared answered sent exchanges replies with
  | nil =>
    cases held
    rw [List.map_nil, List.append_nil]
    exact ⟨shared, answered, rfl, .single (step_stops fun _ => nofun)⟩
  | cons arrival rest inductionHypothesis =>
    cases arrival with
    | fault =>
      cases held
      rw [List.map_nil, List.append_nil]
      exact ⟨shared, answered, rfl, .single (step_stops fun _ => nofun)⟩
    | frame frame =>
      have coming : Session.requests (.frame frame :: rest) =
        frame.request?.toList ++ Session.requests rest := rfl
      rw [coming] at held
      cases asked : frame.request? with
      | none =>
        rw [asked] at held
        obtain ⟨final, all, same, steps⟩ := inductionHypothesis sound held
        exact ⟨final, all, same, (steps_of_ignored asked).trans steps⟩
      | some message =>
        rw [asked] at held
        obtain ⟨early, late, ⟨reply, middle⟩, rfl, answering, others⟩ :=
          Dialogue.held_bind_iff.1 held
        obtain ⟨early, late, ⟨replies, ended⟩, rfl, held, done⟩ := Dialogue.held_bind_iff.1 others
        cases done
        obtain ⟨one, rfl, answeredFirst⟩ : ∃ final : Shared, final.agent = middle ∧
            Steps settings first (idle shared (.serving (.frame frame :: rest)) answered sent)
              (idle final (.serving rest) ((message, reply) ::ₘ answered)
                (sent ++ [reply.frame])) :=
          steps_of_answered sound asked (answers_iff.1 answering)
        have stillSound : Sound one 0 := Steps.sound answeredFirst sound
        obtain ⟨final, all, same, steps⟩ := inductionHypothesis stillSound held
        rw [List.append_assoc] at steps
        exact ⟨final, all, same, answeredFirst.trans steps⟩

/-- Serving over a connection when no call is at work is one of its runs. -/
theorem steps_of_serve {unique : String} {node : Registration} {transcript : Transcript}
    (sound : Sound shared 0)
    (held : Dialogue.Held ((Session.serve settings now unique node arrivals).run shared.agent)
      exchanges (transcript, last)) :
    ∃ (final : Shared) (all : Multiset (Message × Message)), final.agent = last ∧
      Steps settings (Session.registration unique node) (opened ⟨shared, 0⟩ arrivals)
        (idle final (.closed transcript.registered) all
          (transcript.sent.map Message.frame)) := by
  generalize registering : Session.registration unique node = first
  have registered : Step settings first (opened ⟨shared, 0⟩ arrivals)
      (idle shared (.awaiting arrivals) 0 [first.frame]) := .registers rfl
  have decided : Step settings first (idle shared (.awaiting arrivals) 0 [first.frame])
      (idle shared (.decided arrivals) 0 [first.frame]) := .decides rfl
  unfold Link.decided at decided
  unfold Session.serve at held
  rw [registering] at held
  cases accepted : Session.accepted arrivals with
  | error fault =>
    rw [accepted] at held decided
    cases held
    exact ⟨shared, 0, rfl, .head registered (.single decided)⟩
  | ok _ =>
    rw [accepted] at held decided
    obtain ⟨early, late, ⟨replies, ended⟩, rfl, held, done⟩ := Dialogue.held_bind_iff.1 held
    cases done
    obtain ⟨final, all, same, steps⟩ := steps_of_answerAll sound held
    exact ⟨final, all, same, .head registered (.head decided steps)⟩

/-! ### Each request is answered once -/

namespace Accounted

variable (accounted : Accounted settings first arrivals connection)
include accounted

/-- In the middle of a run some of the answers may not be sent yet. -/
theorem sent_eq : connection.sent = [] ∨ ∃ replies : List Message,
    connection.sent = first.frame :: replies.map Message.frame ∧
    (replies : Multiset Message) ≤ connection.answered.map Prod.snd := by
  obtain ⟨replies, sent, told⟩ := accounted.replies
  cases link : connection.link with
  | opening rest => exact .inl (accounted.unopened rest link).2.2
  | awaiting | serving | closed =>
    rw [link] at sent
    refine .inr ⟨replies, sent, ?_⟩
    rw [← told, ← Multiset.coe_add, add_assoc]
    exact Multiset.le_add_right _ _

theorem answered_le :
    connection.answered.map Prod.fst ≤ (Session.served arrivals : Multiset Message) := by
  rw [← accounted.requests, add_assoc]
  exact Multiset.le_add_right _ _

/-- Where the node is not accepted no request is handled. -/
theorem unhandled {fault : RegistrationFault}
    (rejected : Session.accepted arrivals = .error fault) :
    connection.answered = 0 ∧ ∀ message case, Task.working message case ∉ connection.tasks := by
  have none : Session.served arrivals = [] := by
    unfold Session.served
    rw [rejected]
  have account := accounted.requests
  rw [none, add_assoc] at account
  obtain ⟨noAnswer, others⟩ := add_eq_zero.1 account
  obtain ⟨noTask, _⟩ := add_eq_zero.1 others
  refine ⟨Multiset.map_eq_zero.1 noAnswer, fun message case member => ?_⟩
  have handled := (Multiset.mem_filterMap Task.request? _).2 ⟨_, member, rfl⟩
  rw [noTask] at handled
  exact Multiset.notMem_zero message handled

/-- When nothing is left to do all answers are sent, one for each request. -/
theorem finished (sound : Sound connection.shared connection.calls)
    (done : connection.Over settings first) :
    connection.link = .closed (Session.accepted arrivals) ∧
      ∃ replies : List Message, connection.sent = first.frame :: replies.map Message.frame ∧
        (replies : Multiset Message) = connection.answered.map Prod.snd ∧
        connection.answered.map Prod.fst = (Session.served arrivals : Multiset Message) := by
  obtain ⟨registered, closed⟩ := done.closed
  have follows := accounted.follows
  have noTask := done.tasks_eq sound accounted.tasks
  obtain ⟨replies, sent, told⟩ := accounted.replies
  have account := accounted.requests
  rw [closed] at follows sent account
  rw [noTask, done.queue_eq, List.append_nil] at told
  rw [noTask] at account
  refine ⟨closed.trans (congrArg Link.closed follows.symm), replies, sent, ?_, ?_⟩
  · exact (add_zero _).symm.trans told
  · exact (add_zero _).symm.trans ((add_zero _).symm.trans account)

end Accounted

/-- Answers have the ids of their requests. -/
theorem ids_of_answered {replies requests : List Message}
    {answered : Multiset (Message × Message)}
    (told : (replies : Multiset Message) = answered.map Prod.snd)
    (asked : answered.map Prod.fst = (requests : Multiset Message))
    (answers : ∀ pair ∈ answered, IsAnswer settings pair.1 pair.2) :
    (replies.map (·.id)).Perm (requests.map (·.id)) := by
  refine Multiset.coe_eq_coe.1 ?_
  rw [← Multiset.map_coe, ← Multiset.map_coe, told, ← asked, Multiset.map_map, Multiset.map_map]
  exact Multiset.map_congr rfl fun pair member => (answers pair member).id_eq

/-- Each request is answered once, however the steps of a connection follow one another and whatever
calls are still at work when it is opened. Every run of it ends. What is sent is the registration
and then answers that the handler gave; it answers only requests that arrive after the node was
accepted and before the connection ends, none of them twice, and none at all where the node is not
accepted. When nothing is left to do each of these requests is answered and all answers are sent.
Serving the requests one after another is one of the runs, and a binary frame with the octets of a
text counts as the text. -/
theorem every_request_answered_once {roster : Roster}
    (reachable : Traffic.Reachable settings roster start) (unique : String) (node : Registration)
    (arrivals : List Arrival) :
    (WellFounded fun later earlier =>
      Step settings (Session.registration unique node) earlier later) ∧
    (∀ connection,
      Steps settings (Session.registration unique node) (.opened start arrivals) connection →
      (connection.sent = [] ∨ ∃ replies : List Message,
        connection.sent =
          (Session.registration unique node).frame :: replies.map Message.frame ∧
        (replies : Multiset Message) ≤ connection.answered.map Prod.snd) ∧
      connection.answered.map Prod.fst ≤ (Session.served arrivals : Multiset Message) ∧
      (∀ pair ∈ connection.answered, IsAnswer settings pair.1 pair.2) ∧
      (∀ fault, Session.accepted arrivals = .error fault →
        connection.answered = 0 ∧ ∀ message case, Task.working message case ∉ connection.tasks) ∧
      (connection.Over settings (Session.registration unique node) →
        connection.link = .closed (Session.accepted arrivals) ∧
        ∃ replies : List Message,
          connection.sent =
            (Session.registration unique node).frame :: replies.map Message.frame ∧
          (replies : Multiset Message) = connection.answered.map Prod.snd ∧
          connection.answered.map Prod.fst = (Session.served arrivals : Multiset Message) ∧
          (replies.map (·.id)).Perm ((Session.served arrivals).map (·.id)))) ∧
    (start.calls = 0 → ∀ now exchanges transcript last,
      Dialogue.Held ((Session.serve settings now unique node arrivals).run start.shared.agent)
        exchanges (transcript, last) →
      ∃ connection,
        Steps settings (Session.registration unique node) (.opened start arrivals) connection ∧
        connection.Over settings (Session.registration unique node) ∧
        connection.link = .closed transcript.registered ∧
        connection.sent = transcript.sent.map Message.frame ∧
        connection.shared.agent = last) ∧
    ∀ words, (Frame.binary (Text.octets words)).message? = (Frame.text words).message? := by
  have startSound : Sound start.shared (opened start arrivals).calls := by
    unfold opened calls
    dsimp only
    rw [Multiset.filterMap_zero, zero_add]
    exact reachable.sound
  refine ⟨wellFounded_step settings _, fun connection steps => ?_,
    fun alone now exchanges transcript last held => ?_, Frame.message?_binary_octets⟩
  · have accounted := steps.accounted
    refine ⟨accounted.sent_eq, accounted.answered_le, accounted.answered,
      fun fault rejected => accounted.unhandled rejected, fun done => ?_⟩
    obtain ⟨closed, replies, sent, told, asked⟩ :=
      accounted.finished (steps.sound startSound) done
    exact ⟨closed, replies, sent, told, asked, ids_of_answered told asked accounted.answered⟩
  · obtain ⟨shared, calls⟩ := start
    obtain rfl : calls = 0 := alone
    obtain ⟨final, all, same, steps⟩ := steps_of_serve reachable.sound held
    exact ⟨_, steps, over_idle, rfl, rfl, same⟩

/-- A text with an id, a type and a method. -/
def smallText (id type method : String) : String :=
  "\x7b\"id\":\"" ++ id ++ "\",\"type\":\"" ++ type ++ "\",\"method\":\"" ++ method ++ "\"\x7d"

/-- What arrives over a connection: the acceptance, three requests of which two have the same id and
one is in octets, things that are no requests, and a fault with one more request after it. -/
def smallArrivals : List Arrival :=
  [.frame (.text (smallText "a" "response" registerMethod)),
    .frame (.text (smallText "q" "request" publishMethod)), .frame .control,
    .frame (.text (smallText "n" "notification" publishMethod)),
    .frame (.text (smallText "r" "request" "node_stage_volume")), .frame (.text "\x7b"),
    .frame (.binary (Text.octets (smallText "q" "request" unpublishMethod))), .fault,
    .frame (.text (smallText "s" "request" publishMethod))]

/-- A connection over these arrivals comes to its end with one answer for each of the three. -/
theorem three_requests_answered :
    ∃ connection : Connection,
      Steps (Memory.smallSettings .onCreate) (Session.registration "0" default)
        (.opened ⟨.fresh .empty, 0⟩ smallArrivals) connection ∧
      connection.Over (Memory.smallSettings .onCreate) (Session.registration "0" default) ∧
      connection.link = .closed (.ok ()) ∧
      ∃ replies : List Message,
        connection.sent = (Session.registration "0" default).frame :: replies.map Message.frame ∧
        (replies.map (·.id)).Perm ["q", "r", "q"] := by
  have accepted : Session.accepted smallArrivals = .ok () := by decide +kernel
  have served : (Session.served smallArrivals).map (·.id) = ["q", "r", "q"] := by decide +kernel
  obtain ⟨last, steps, done⟩ :=
    exists_over (Memory.smallSettings .onCreate) (Session.registration "0" default)
      (.opened ⟨.fresh .empty, 0⟩ smallArrivals)
  have reachable : Traffic.Reachable (Memory.smallSettings .onCreate) .empty ⟨.fresh .empty, 0⟩ :=
    .fresh
  obtain ⟨_, runs, _⟩ := every_request_answered_once reachable "0" default smallArrivals
  obtain ⟨_, _, _, _, ended⟩ := runs last steps
  obtain ⟨closed, replies, sent, _, _, ids⟩ := ended done
  rw [accepted] at closed
  rw [served] at ids
  exact ⟨last, steps, done, closed, replies, sent, ids⟩

end Connection

end NodeAgent.Rpc
