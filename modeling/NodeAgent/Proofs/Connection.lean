/-
This file lets a connection take its steps in any order: it registers and is accepted or not,
receives frames, handles each of them in a task of its own, and sends what the tasks put into one
queue. The tasks work on the volumes with calls that share the agent, also with calls of earlier
connections that are not finished. What carries the proofs is an account of the requests: each is
still to come, in the hands of one task, or answered, and each answer is in the hands of one task,
in the queue, or sent.
-/

import Mathlib.Algebra.Order.Group.Multiset
import Mathlib.Logic.Hydra
import NodeAgent.Proofs.Answering
import NodeAgent.Proofs.Traffic
import NodeAgent.Rpc.Session

namespace NodeAgent.Rpc

/-- The frame that a message is sent in. -/
def Message.frame (message : Message) : Frame := .text message.print

/-! ### Tasks -/

/-- What becomes of a frame: it is looked at, the call for it is at work, or the answer is there. -/
inductive Task where
  | received (frame : Frame)
  | working (message : Message) (case : Case)
  | replying (reply : Message)

/-- The answers that a message can get: the refusal of one that is not understood, or what tells of
an outcome that the request can come to. -/
inductive IsAnswer (settings : Settings) (message : Message) : Message → Prop where
  | refused {now refusal} (refused : understand now message = .error refusal) :
      IsAnswer settings message (.refuse message.id refusal)
  | concluded {now request outcome} (understood : understand now message = .ok request)
      (comes : request.CanComeTo settings outcome) :
      IsAnswer settings message (conclude message.id request outcome)

theorem IsAnswer.id_eq {settings : Settings} {message reply : Message}
    (answers : IsAnswer settings message reply) : reply.id = message.id := by
  cases answers with
  | refused => rfl
  | concluded => exact (shape_conclude ..).1

namespace Task

/-- The call that is at work. -/
def call? : Task → Option Ongoing
  | received _ | replying _ => none
  | working _ case => some case.call

/-- The request that is not answered yet. -/
def request? : Task → Option Message
  | received frame => frame.request?
  | working message _ => some message
  | replying _ => none

/-- The answer that is there. -/
def reply? : Task → Option Message
  | received _ | working _ _ => none
  | replying reply => some reply

/-- A step of the handler in the middle of a request. -/
inductive Handles (settings : Settings) (shared : Shared) : Task → Shared → Task → Prop where
  | understands {frame message now request} (received : frame.request? = some message)
      (understood : understand now message = .ok request) :
      Handles settings shared (.received frame) shared (.working message (.arriving request))
  | works {message case after next} (works : Case.Works settings shared case after next) :
      Handles settings shared (.working message case) after (.working message next)

/-- The step with which the handler answers a request. -/
inductive Answers (settings : Settings) (shared : Shared) :
    Task → Message → Shared → Message → Prop where
  | refuses {frame message now refusal} (received : frame.request? = some message)
      (refused : understand now message = .error refusal) :
      Answers settings shared (.received frame) message shared (.refuse message.id refusal)
  | concludes {message case after outcome} (ends : Case.Ends settings shared case after outcome) :
      Answers settings shared (.working message case) message after
        (conclude message.id case.call.request outcome)

/-- A task that works for a message does what the message asks. -/
inductive InOrder (settings : Settings) : Task → Prop where
  | received (frame) : InOrder settings (.received frame)
  | working {now message case} (understood : understand now message = .ok case.call.request)
      (inOrder : case.InOrder settings) : InOrder settings (.working message case)
  | replying (reply) : InOrder settings (.replying reply)

variable {settings : Settings} {shared after : Shared} {task next : Task} {message reply : Message}

theorem Handles.inOrder (handles : task.Handles settings shared after next)
    (inOrder : task.InOrder settings) : next.InOrder settings := by
  cases handles with
  | understands received understood => exact .working understood (.arriving _)
  | works works =>
    cases inOrder with
    | working understood inOrder =>
      obtain ⟨inOrder, same⟩ := inOrder.works works
      exact .working (same ▸ understood) inOrder

theorem Handles.request?_eq (handles : task.Handles settings shared after next) :
    ∃ message, task.request? = some message ∧ next.request? = some message := by
  cases handles with
  | understands received => exact ⟨_, received, rfl⟩
  | works => exact ⟨_, rfl, rfl⟩

theorem Handles.reply?_eq (handles : task.Handles settings shared after next) :
    task.reply? = none ∧ next.reply? = none := by
  cases handles with
  | understands | works => exact ⟨rfl, rfl⟩

theorem Answers.request?_eq (answers : task.Answers settings shared message after reply) :
    task.request? = some message := by
  cases answers with
  | refuses received => exact received
  | concludes => rfl

theorem Answers.reply?_eq (answers : task.Answers settings shared message after reply) :
    task.reply? = none := by
  cases answers with
  | refuses | concludes => rfl

theorem Answers.isAnswer (answers : task.Answers settings shared message after reply)
    (inOrder : task.InOrder settings) : IsAnswer settings message reply := by
  cases answers with
  | refuses received refused => exact .refused refused
  | concludes ends =>
    cases inOrder with
    | working understood inOrder => exact .concluded understood (inOrder.canComeTo ends)

end Task

/-! ### Steps of a connection -/

/-- How far the connection itself has come, with what is still to arrive. Once it is closed its
tasks still go on, and what they queue is still sent. -/
inductive Link where
  | opening (arrivals : List Arrival)
  | awaiting (arrivals : List Arrival)
  | serving (arrivals : List Arrival)
  | closed (registered : Except RegistrationFault Unit)

/-- The requests that are answered where the node is accepted. -/
def Session.served (arrivals : List Arrival) : List Message :=
  match accepted arrivals with
  | .ok _ => requests arrivals.tail
  | .error _ => []

namespace Link

/-- The connection after the first arrival. -/
def decided (arrivals : List Arrival) : Link :=
  match Session.accepted arrivals with
  | .ok _ => .serving arrivals.tail
  | .error fault => .closed (.error fault)

/-- The requests that are still to come. -/
def expects : Link → List Message
  | opening arrivals | awaiting arrivals => Session.served arrivals
  | serving arrivals => Session.requests arrivals
  | closed _ => []

/-- What the connection has sent by itself. -/
def greeting (first : Message) : Link → List Frame
  | opening _ => []
  | awaiting _ | serving _ | closed _ => [first.frame]

/-- The connection is one over the given arrivals. -/
def Follows (arrivals : List Arrival) : Link → Prop
  | opening rest | awaiting rest => rest = arrivals
  | serving _ => Session.accepted arrivals = .ok ()
  | closed registered => Session.accepted arrivals = registered

/-- The first arrival decides whether the requests after it are answered. -/
theorem decided_spec (arrivals : List Arrival) (first : Message) :
    (decided arrivals).Follows arrivals ∧ (decided arrivals).expects = Session.served arrivals ∧
      (decided arrivals).greeting first = [first.frame] ∧
      ∀ rest, decided arrivals ≠ .opening rest := by
  unfold decided Session.served
  cases accepted : Session.accepted arrivals with
  | ok _ => exact ⟨accepted, rfl, rfl, fun _ => nofun⟩
  | error fault => exact ⟨accepted, rfl, rfl, fun _ => nofun⟩

end Link

/-- A connection: what its calls share with those of earlier connections, its tasks, the requests
that the handler answered with the answers, the queue, and what was sent. -/
structure Connection where
  shared : Shared
  earlier : Multiset Ongoing
  link : Link
  tasks : Multiset Task
  answered : Multiset (Message × Message)
  queue : List Message
  sent : List Frame

namespace Connection

/-- A connection that was opened while earlier calls are still at work. -/
def opened (start : Traffic) (arrivals : List Arrival) : Connection :=
  ⟨start.shared, start.calls, .opening arrivals, 0, 0, [], []⟩

/-- The calls that are at work. -/
def calls (connection : Connection) : Multiset Ongoing :=
  connection.tasks.filterMap Task.call? + connection.earlier

/-- The connection itself, one of its tasks or an earlier call takes its next step. -/
inductive Step (settings : Settings) (first : Message) : Connection → Connection → Prop where
  | registers {connection arrivals} (opening : connection.link = .opening arrivals) :
      Step settings first connection
        { connection with link := .awaiting arrivals, sent := connection.sent ++ [first.frame] }
  | decides {connection arrivals} (awaiting : connection.link = .awaiting arrivals) :
      Step settings first connection { connection with link := .decided arrivals }
  | receives {connection frame rest}
      (serving : connection.link = .serving (.frame frame :: rest)) :
      Step settings first connection
        { connection with link := .serving rest, tasks := .received frame ::ₘ connection.tasks }
  | stops {connection rest} (serving : connection.link = .serving rest)
      (noFrame : ∀ frame, rest.head? ≠ some (.frame frame)) :
      Step settings first connection { connection with link := .closed (.ok ()) }
  | ignores {connection frame others} (received : connection.tasks = .received frame ::ₘ others)
      (nothing : frame.request? = none) :
      Step settings first connection { connection with tasks := others }
  | handles {connection task others after next} (has : connection.tasks = task ::ₘ others)
      (handles : task.Handles settings connection.shared after next) :
      Step settings first connection
        { connection with shared := after, tasks := next ::ₘ others }
  | answers {connection task others message after reply}
      (has : connection.tasks = task ::ₘ others)
      (answers : task.Answers settings connection.shared message after reply) :
      Step settings first connection
        { connection with
          shared := after
          tasks := .replying reply ::ₘ others
          answered := (message, reply) ::ₘ connection.answered }
  | queues {connection reply others} (has : connection.tasks = .replying reply ::ₘ others) :
      Step settings first connection
        { connection with tasks := others, queue := connection.queue ++ [reply] }
  | sends {connection reply rest} (queued : connection.queue = reply :: rest) :
      Step settings first connection
        { connection with queue := rest, sent := connection.sent ++ [reply.frame] }
  | proceeds {connection call others after next} (has : connection.earlier = call ::ₘ others)
      (proceeds : Proceeds settings connection.shared call after next) :
      Step settings first connection
        { connection with shared := after, earlier := next ::ₘ others }
  | finishes {connection call others after} (has : connection.earlier = call ::ₘ others)
      (finishes : Finishes settings connection.shared call after) :
      Step settings first connection { connection with shared := after, earlier := others }

/-- What a connection can come to. -/
abbrev Steps (settings : Settings) (first : Message) : Connection → Connection → Prop :=
  Relation.ReflTransGen (Step settings first)

/-- Nothing is left to do. -/
def Over (settings : Settings) (first : Message) (connection : Connection) : Prop :=
  ∀ later, ¬Step settings first connection later

variable {settings : Settings} {first : Message} {before after connection : Connection}
  {start : Traffic} {arrivals : List Arrival}

/-! ### The calls of a connection -/

theorem calls_cons_some {task : Task} {others : Multiset Task} {call : Ongoing}
    (works : task.call? = some call) (earlier : Multiset Ongoing) :
    (task ::ₘ others).filterMap Task.call? + earlier =
      call ::ₘ (others.filterMap Task.call? + earlier) := by
  rw [Multiset.filterMap_cons_some _ _ _ works, Multiset.cons_add]

theorem calls_cons_none {task : Task} {others : Multiset Task} (idle : task.call? = none)
    (earlier : Multiset Ongoing) :
    (task ::ₘ others).filterMap Task.call? + earlier = others.filterMap Task.call? + earlier := by
  rw [Multiset.filterMap_cons_none _ _ idle]

/-- However the tasks go on, their calls take their steps like any others. -/
theorem Step.sound (step : Step settings first before after)
    (sound : Sound before.shared before.calls) : Sound after.shared after.calls := by
  unfold calls at sound ⊢
  cases step with
  | registers | decides | stops | sends => exact sound
  | receives =>
    dsimp only
    rw [calls_cons_none rfl]
    exact sound
  | ignores has | queues has =>
    rw [has, calls_cons_none rfl] at sound
    exact sound
  | handles has handles =>
    dsimp only
    cases handles with
    | understands =>
      rw [has, calls_cons_none rfl] at sound
      rw [calls_cons_some rfl]
      exact sound.arrives _
    | works works =>
      rw [has, calls_cons_some rfl] at sound
      rw [calls_cons_some rfl]
      exact sound.proceeds works.1
  | answers has answers =>
    dsimp only
    rw [calls_cons_none rfl]
    cases answers with
    | refuses =>
      rw [has, calls_cons_none rfl] at sound
      exact sound
    | concludes ends =>
      rw [has, calls_cons_some rfl] at sound
      exact sound.finishes ends.1
  | proceeds has proceeds =>
    dsimp only
    rw [has, Multiset.add_cons] at sound
    rw [Multiset.add_cons]
    exact sound.proceeds proceeds
  | finishes has finishes =>
    rw [has, Multiset.add_cons] at sound
    exact sound.finishes finishes

theorem Steps.sound (steps : Steps settings first before after)
    (sound : Sound before.shared before.calls) : Sound after.shared after.calls := by
  induction steps with
  | refl => exact sound
  | tail _ step inductionHypothesis => exact step.sound inductionHypothesis

/-! ### The account of the requests -/

/-- What is true however the steps follow one another. -/
structure Accounted (settings : Settings) (first : Message) (arrivals : List Arrival)
    (connection : Connection) : Prop where
  follows : connection.link.Follows arrivals
  unopened : ∀ rest, connection.link = .opening rest →
    connection.tasks = 0 ∧ connection.queue = [] ∧ connection.sent = []
  replies : ∃ replies : List Message,
    connection.sent = connection.link.greeting first ++ replies.map Message.frame ∧
    (↑(replies ++ connection.queue) : Multiset Message) + connection.tasks.filterMap Task.reply? =
      connection.answered.map Prod.snd
  requests : connection.answered.map Prod.fst + connection.tasks.filterMap Task.request? +
    connection.link.expects = Session.served arrivals
  tasks : ∀ task ∈ connection.tasks, task.InOrder settings
  answered : ∀ pair ∈ connection.answered, IsAnswer settings pair.1 pair.2

namespace Accounted

theorem opened : Accounted settings first arrivals (.opened start arrivals) where
  follows := rfl
  unopened _ _ := ⟨rfl, rfl, rfl⟩
  replies := ⟨[], rfl, rfl⟩
  requests := zero_add _
  tasks _ member := absurd member (Multiset.notMem_zero _)
  answered _ member := absurd member (Multiset.notMem_zero _)

variable {task next : Task} {others : Multiset Task} {message reply : Message}
  {rest : List Arrival}

theorem registers (accounted : Accounted settings first arrivals connection)
    (opening : connection.link = .opening rest) :
    Accounted settings first arrivals
      { connection with link := .awaiting rest, sent := connection.sent ++ [first.frame] } := by
  obtain ⟨follows, unopened, ⟨replies, sent, told⟩, requests, tasks, answered⟩ := accounted
  rw [opening] at follows sent requests
  -- Nothing was sent before, so the registration is the first message.
  obtain ⟨_, _, unsent⟩ := unopened rest opening
  obtain ⟨_, none⟩ := List.append_eq_nil_iff.1 (sent.symm.trans unsent)
  obtain rfl := List.map_eq_nil_iff.1 none
  exact ⟨follows, fun _ => nofun, ⟨[], by rw [unsent]; rfl, told⟩, requests, tasks, answered⟩

theorem decides (accounted : Accounted settings first arrivals connection)
    (awaiting : connection.link = .awaiting rest) :
    Accounted settings first arrivals { connection with link := .decided rest } := by
  obtain ⟨follows, unopened, ⟨replies, sent, told⟩, requests, tasks, answered⟩ := accounted
  rw [awaiting] at follows sent requests
  obtain rfl := follows
  obtain ⟨follows, expects, greeting, opened⟩ := Link.decided_spec rest first
  refine ⟨follows, fun later same => absurd same (opened later), ⟨replies, ?_, told⟩, ?_, tasks,
    answered⟩
  · rw [greeting]
    exact sent
  · rw [expects]
    exact requests

theorem receives {frame : Frame} (accounted : Accounted settings first arrivals connection)
    (serving : connection.link = .serving (.frame frame :: rest)) :
    Accounted settings first arrivals
      { connection with link := .serving rest, tasks := .received frame ::ₘ connection.tasks } := by
  obtain ⟨follows, unopened, ⟨replies, sent, told⟩, requests, tasks, answered⟩ := accounted
  rw [serving] at follows sent requests
  refine ⟨follows, fun _ => nofun, ⟨replies, sent, ?_⟩, ?_, ?_, answered⟩
  · dsimp only
    rw [Multiset.filterMap_cons_none _ _ rfl]
    exact told
  · have coming : Link.expects (.serving (.frame frame :: rest)) =
        frame.request?.toList ++ Session.requests rest := rfl
    rw [← requests, coming]
    dsimp only
    cases asked : frame.request? with
    | none =>
      rw [Multiset.filterMap_cons_none (f := Task.request?) (.received frame) _ asked]
      rfl
    | some message =>
      rw [Multiset.filterMap_cons_some Task.request? (.received frame) _ asked,
        Multiset.add_cons, Multiset.cons_add, ← Multiset.add_cons]
      rfl
  · exact Multiset.forall_mem_cons.2 ⟨.received frame, tasks⟩

theorem stops (accounted : Accounted settings first arrivals connection)
    (serving : connection.link = .serving rest)
    (noFrame : ∀ frame, rest.head? ≠ some (.frame frame)) :
    Accounted settings first arrivals { connection with link := .closed (.ok ()) } := by
  obtain ⟨follows, unopened, ⟨replies, sent, told⟩, requests, tasks, answered⟩ := accounted
  rw [serving] at follows sent requests
  have none : Session.requests rest = [] := by
    match rest, noFrame with
    | [], _ | .fault :: _, _ => rfl
    | .frame frame :: _, noFrame => exact absurd rfl (noFrame frame)
  refine ⟨follows, fun _ => nofun, ⟨replies, sent, told⟩, ?_, tasks, answered⟩
  rw [← requests]
  exact congrArg (fun some : List Message => _ + (some : Multiset Message)) none.symm

theorem not_opening (accounted : Accounted settings first arrivals connection)
    (has : connection.tasks = task ::ₘ others) : connection.link ≠ .opening rest := by
  intro opening
  have none := (accounted.unopened rest opening).1
  rw [has] at none
  exact Multiset.cons_ne_zero none

theorem ignores {frame : Frame} (accounted : Accounted settings first arrivals connection)
    (has : connection.tasks = .received frame ::ₘ others) (nothing : frame.request? = none) :
    Accounted settings first arrivals { connection with tasks := others } := by
  refine ⟨accounted.follows, fun rest opening => absurd opening (accounted.not_opening has), ?_, ?_,
    ?_, accounted.answered⟩
  · have replies := accounted.replies
    rw [has, Multiset.filterMap_cons_none _ _ rfl] at replies
    exact replies
  · have requests := accounted.requests
    rw [has,
      Multiset.filterMap_cons_none (f := Task.request?) (.received frame) _ nothing] at requests
    exact requests
  · exact fun task member => accounted.tasks task (has ▸ Multiset.mem_cons_of_mem member)

theorem handles {after : Shared} (accounted : Accounted settings first arrivals connection)
    (has : connection.tasks = task ::ₘ others)
    (handles : task.Handles settings connection.shared after next) :
    Accounted settings first arrivals
      { connection with shared := after, tasks := next ::ₘ others } := by
  refine ⟨accounted.follows, fun rest opening => absurd opening (accounted.not_opening has), ?_, ?_,
    ?_, accounted.answered⟩
  · have replies := accounted.replies
    obtain ⟨noReply, stillNone⟩ := handles.reply?_eq
    rw [has, Multiset.filterMap_cons_none _ _ noReply] at replies
    dsimp only
    rw [Multiset.filterMap_cons_none _ _ stillNone]
    exact replies
  · have requests := accounted.requests
    obtain ⟨message, asked, stillAsked⟩ := handles.request?_eq
    rw [has, Multiset.filterMap_cons_some _ _ _ asked] at requests
    dsimp only
    rw [Multiset.filterMap_cons_some _ _ _ stillAsked]
    exact requests
  · have tasks := accounted.tasks
    rw [has, Multiset.forall_mem_cons] at tasks
    exact Multiset.forall_mem_cons.2 ⟨handles.inOrder tasks.1, tasks.2⟩

theorem answers {after : Shared} (accounted : Accounted settings first arrivals connection)
    (has : connection.tasks = task ::ₘ others)
    (answers : task.Answers settings connection.shared message after reply) :
    Accounted settings first arrivals
      { connection with
        shared := after
        tasks := .replying reply ::ₘ others
        answered := (message, reply) ::ₘ connection.answered } := by
  have tasks := accounted.tasks
  rw [has, Multiset.forall_mem_cons] at tasks
  refine ⟨accounted.follows, fun rest opening => absurd opening (accounted.not_opening has), ?_, ?_,
    Multiset.forall_mem_cons.2 ⟨.replying reply, tasks.2⟩,
    Multiset.forall_mem_cons.2 ⟨answers.isAnswer tasks.1, accounted.answered⟩⟩
  · obtain ⟨replies, sent, told⟩ := accounted.replies
    refine ⟨replies, sent, ?_⟩
    rw [has, Multiset.filterMap_cons_none _ _ answers.reply?_eq] at told
    dsimp only
    rw [Multiset.filterMap_cons_some Task.reply? _ _ rfl, Multiset.add_cons, told,
      Multiset.map_cons]
  · have requests := accounted.requests
    rw [has, Multiset.filterMap_cons_some _ _ _ answers.request?_eq, Multiset.add_cons] at requests
    dsimp only
    rw [Multiset.filterMap_cons_none _ _ rfl, Multiset.map_cons, Multiset.cons_add]
    exact requests

theorem queues (accounted : Accounted settings first arrivals connection)
    (has : connection.tasks = .replying reply ::ₘ others) :
    Accounted settings first arrivals
      { connection with tasks := others, queue := connection.queue ++ [reply] } := by
  refine ⟨accounted.follows, fun rest opening => absurd opening (accounted.not_opening has), ?_, ?_,
    ?_, accounted.answered⟩
  · obtain ⟨replies, sent, told⟩ := accounted.replies
    refine ⟨replies, sent, ?_⟩
    -- The answer leaves the task and joins the end of the queue.
    rw [has, Multiset.filterMap_cons_some Task.reply? _ _ rfl, Multiset.add_cons,
      ← Multiset.cons_add] at told
    rw [← told, ← List.append_assoc]
    exact congrArg (· + _) (Multiset.coe_eq_coe.2 (List.perm_append_singleton reply _))
  · have requests := accounted.requests
    rw [has, Multiset.filterMap_cons_none _ _ rfl] at requests
    exact requests
  · exact fun task member => accounted.tasks task (has ▸ Multiset.mem_cons_of_mem member)

theorem sends {queue : List Message} (accounted : Accounted settings first arrivals connection)
    (queued : connection.queue = reply :: queue) :
    Accounted settings first arrivals
      { connection with queue := queue, sent := connection.sent ++ [reply.frame] } := by
  refine ⟨accounted.follows, fun rest opening => ?_, ?_, accounted.requests, accounted.tasks,
    accounted.answered⟩
  · have none := (accounted.unopened rest opening).2.1
    cases queued.symm.trans none
  · obtain ⟨replies, sent, told⟩ := accounted.replies
    refine ⟨replies ++ [reply], ?_, ?_⟩
    · dsimp only
      rw [sent, List.append_assoc, List.map_append]
      rfl
    · rw [queued] at told
      rw [List.append_assoc]
      exact told

end Accounted

theorem Step.accounted (step : Step settings first before after)
    (accounted : Accounted settings first arrivals before) :
    Accounted settings first arrivals after := by
  cases step with
  | registers opening => exact accounted.registers opening
  | decides awaiting => exact accounted.decides awaiting
  | receives serving => exact accounted.receives serving
  | stops serving noFrame => exact accounted.stops serving noFrame
  | ignores has nothing => exact accounted.ignores has nothing
  | handles has handles => exact accounted.handles has handles
  | answers has answers => exact accounted.answers has answers
  | queues has => exact accounted.queues has
  | sends queued => exact accounted.sends queued
  | proceeds | finishes =>
    exact ⟨accounted.follows, accounted.unopened, accounted.replies, accounted.requests,
      accounted.tasks, accounted.answered⟩

/-- Whatever the order of the steps, every request and every answer is accounted for. -/
theorem Steps.accounted (steps : Steps settings first (.opened start arrivals) connection) :
    Accounted settings first arrivals connection := by
  induction steps with
  | refl => exact .opened
  | tail _ step inductionHypothesis => exact step.accounted inductionHypothesis

end Connection

end NodeAgent.Rpc
