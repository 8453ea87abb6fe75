/-
This file says how a message of the orchestrator is answered. The message is understood first, and
what cannot be understood is refused before the agent is asked for anything. What can be understood
is a request of the agent, and the answer is written from what comes of it and from nothing else.
-/

import NodeAgent.Proofs.Requests
import NodeAgent.Rpc.Handler

namespace NodeAgent

/-- The path that a request names. -/
def Request.target : Request → Path
  | publish _ _ target _ | unpublish _ _ target => target

namespace Rpc

open Operation

/-- What a payload says, or the refusal of one that cannot be read. -/
def parameters? {Value : Type} (decoder : Json.Decoder Value) (payload : Json) :
    Except Refusal Value :=
  (Json.decodeValue decoder payload).mapError fun fault =>
    .invalidParams s!"参数错误: {fault.message}"

/-- What a method with a payload asks of the agent. -/
def requestFor (now : Instant) (method : String) (payload : Json) : Except Refusal Request :=
  if method = publishMethod then
    (parameters? PublishRequest.decoder payload).map fun request =>
      .publish now request.volumeId ⟨request.targetPath⟩ request.capacity
  else if method = unpublishMethod then
    (parameters? UnpublishRequest.decoder payload).map fun request =>
      .unpublish now request.volumeId ⟨request.targetPath⟩
  else .error (.methodNotFound method)

/-- What a message asks of the agent, or why it is refused. -/
def understand (now : Instant) (message : Message) : Except Refusal Request :=
  match message.method with
  | none => .error (.invalidRequest "缺少方法名")
  | some method => requestFor now method (message.payload.getD .null)

/-- The payload that tells of a reply. -/
def payloadOf (request : Request) : Reply → Json
  | .published published =>
    (publishResponse ⟨request.volume, request.target.text, none⟩ published).toJson.normal
  | .released released =>
    (unpublishResponse ⟨request.volume, request.target.text⟩ released).toJson.normal

/-- The answer that tells what came of a request. -/
def conclude (id : String) (request : Request) : Except Failure Reply → Message
  | .ok reply => .response id (payloadOf request reply)
  | .error failure => .refuse id (.ofFailure failure)

/-- What tells of an outcome is a response with either a payload or an error. -/
theorem shape_conclude (id : String) (request : Request) (outcome : Except Failure Reply) :
    (conclude id request outcome).id = id ∧ (conclude id request outcome).kind = .response ∧
      (conclude id request outcome).method = none ∧
      (conclude id request outcome).payload.isSome =
        (conclude id request outcome).error.isNone := by
  cases outcome with
  | ok reply | error failure => exact ⟨rfl, rfl, rfl, rfl⟩

/-! ### Every message is understood first -/

theorem run_parameters {Value : Type} (decoder : Json.Decoder Value) (payload : Json)
    (agent : Agent) :
    (parameters decoder payload).run agent = .done (parameters? decoder payload, agent) := by
  unfold parameters parameters?
  cases Json.decodeValue decoder payload <;> rfl

theorem run_bind {First Last : Type} (first : Handling First) (next : First → Handling Last)
    (agent : Agent) :
    (first >>= next).run agent = first.run agent >>= fun ended =>
      match ended.1 with
      | .ok result => (next result).run ended.2
      | .error refusal => .done (.error refusal, ended.2) := by
  refine (bind_congr fun ended => ?_ : first.run agent >>= _ = _)
  obtain ⟨outcome, last⟩ := ended
  cases outcome <;> rfl

theorem run_ofOperation {Result : Type} (operation : Operation Agent Result) (agent : Agent) :
    (Handling.ofOperation operation).run agent = operation.run agent >>= fun ended =>
      .done (ended.1.mapError Refusal.ofFailure, ended.2) := rfl

/-- What is said of an operation is what is said of the request that it carries out. -/
theorem run_ofOperation_bind {Result : Type} (operation : Operation Agent Result)
    (request : Request) (reply : Result → Reply) (agent : Agent) :
    (Handling.ofOperation operation >>= fun result =>
        pure (payloadOf request (reply result))).run agent =
      (operation >>= fun result => pure (reply result)).run agent >>= fun ended =>
        .done ((ended.1.mapError Refusal.ofFailure).map (payloadOf request), ended.2) := by
  have replied : (operation >>= fun result => pure (reply result)).run agent =
      operation.run agent >>= fun ended => .done (ended.1.map reply, ended.2) := by
    refine (bind_congr fun ended => ?_ : operation.run agent >>= _ = _)
    obtain ⟨outcome, last⟩ := ended
    cases outcome <;> rfl
  rw [run_bind, run_ofOperation, replied, bind_assoc, bind_assoc]
  refine bind_congr fun ended => ?_
  obtain ⟨outcome, last⟩ := ended
  cases outcome <;> rfl

/-- Carrying out a method is reading its payload and then doing what it asks. -/
theorem run_dispatch (settings : Settings) (now : Instant) (method : String) (payload : Json)
    (agent : Agent) :
    (dispatch settings now method payload).run agent =
      match requestFor now method payload with
      | .error refusal => .done (.error refusal, agent)
      | .ok request => (request.operation settings).run agent >>= fun ended =>
          .done ((ended.1.mapError Refusal.ofFailure).map (payloadOf request), ended.2) := by
  unfold dispatch requestFor
  by_cases publishes : method = publishMethod
  · rw [if_pos publishes, if_pos publishes]
    unfold handlePublish
    rw [run_bind, run_parameters]
    cases parameters? PublishRequest.decoder payload with
    | error refusal => rfl
    | ok request => exact run_ofOperation_bind _ (.publish now _ ⟨_⟩ _) .published agent
  rw [if_neg publishes, if_neg publishes]
  by_cases releases : method = unpublishMethod
  · rw [if_pos releases, if_pos releases]
    unfold handleUnpublish
    rw [run_bind, run_parameters]
    cases parameters? UnpublishRequest.decoder payload with
    | error refusal => rfl
    | ok request => exact run_ofOperation_bind _ (.unpublish now _ ⟨_⟩) .released agent
  rw [if_neg releases, if_neg releases]
  rfl

/-- A message is refused unasked, or the agent is asked what it was understood to ask and the answer
tells what came of it. -/
theorem run_answer (settings : Settings) (now : Instant) (message : Message) (agent : Agent) :
    (answer settings now message).run agent =
      match understand now message with
      | .error refusal => .done (.refuse message.id refusal, agent)
      | .ok request => (request.operation settings).run agent >>= fun ended =>
          .done (conclude message.id request ended.1, ended.2) := by
  unfold answer understand
  cases message.method with
  | none => rfl
  | some method =>
    dsimp only
    show ((dispatch settings now method (message.payload.getD .null)).run agent >>= _) = _
    rw [run_dispatch]
    cases requestFor now method (message.payload.getD .null) with
    | error refusal => rfl
    | ok request =>
      dsimp only
      rw [bind_assoc]
      refine bind_congr fun ended => ?_
      obtain ⟨outcome, last⟩ := ended
      cases outcome <;> rfl

/-- How a message can be answered. -/
inductive Answers (settings : Settings) (now : Instant) (message : Message) (agent : Agent) :
    List (Exchange backends) → Message → Agent → Prop where
  | refused {refusal} (refused : understand now message = .error refusal) :
      Answers settings now message agent [] (.refuse message.id refusal) agent
  | concluded {request exchanges outcome after}
      (understood : understand now message = .ok request)
      (conversation : Converses (request.operation settings) agent exchanges outcome after) :
      Answers settings now message agent exchanges (conclude message.id request outcome) after

variable {settings : Settings} {now : Instant} {message reply : Message} {agent after : Agent}
  {exchanges : List (Exchange backends)}

/-- A message is answered in one of these ways and in no other. -/
theorem answers_iff :
    Dialogue.Held ((answer settings now message).run agent) exchanges (reply, after) ↔
      Answers settings now message agent exchanges reply after := by
  rw [run_answer]
  constructor
  · intro held
    generalize understood : understand now message = asked at held
    cases asked with
    | error refusal =>
      obtain ⟨rfl, same⟩ := held_done_iff.1 held
      obtain ⟨rfl, rfl⟩ := Prod.mk.inj same
      exact .refused understood
    | ok request =>
      obtain ⟨⟨outcome, last⟩, conversation, same⟩ := held_andThen_done_iff.1 held
      obtain ⟨rfl, rfl⟩ := Prod.mk.inj same
      exact .concluded understood conversation
  · intro answers
    cases answers with
    | refused refused =>
      rw [refused]
      exact .done _
    | concluded understood conversation =>
      rw [understood]
      exact held_andThen_done_iff.2 ⟨_, conversation, rfl⟩

theorem answers_iff_of_understood {request : Request}
    (understood : understand now message = .ok request) :
    Answers settings now message agent exchanges reply after ↔
      ∃ outcome, Converses (request.operation settings) agent exchanges outcome after ∧
        reply = conclude message.id request outcome := by
  constructor
  · intro answers
    cases answers with
    | refused refused =>
      rw [understood] at refused
      cases refused
    | concluded again conversation =>
      rw [understood] at again
      cases again
      exact ⟨_, conversation, rfl⟩
  · rintro ⟨outcome, conversation, rfl⟩
    exact .concluded understood conversation

/-! ### What an answer tells -/

/-- The snapshot that a volume was filled from, as it is told. -/
def sourceJson (source : Source) : Json :=
  .object [("repository", .text source.destination.repository),
    ("snapshot_id", .text source.snapshot.id), ("time", .text source.snapshot.time.displayText)]

/-- The result of a backup, as it is told. -/
def resultJson (result : BackupResult) : Json :=
  .object ((result.error.map fun error => ("error", Json.text error)).toList ++
    [("repository", .text result.repository), ("success", .bool result.succeeded)])

theorem normalItems_texts (texts : List String) :
    Json.normalItems (texts.map .text) = texts.map .text := by
  induction texts with
  | nil => rfl
  | cons first rest inductionHypothesis => exact congrArg (.text first :: ·) inductionHypothesis

theorem putMember_nil (key : String) (value : Json) :
    Json.putMember key value [] = [(key, value)] := rfl

theorem putMember_of_lt {key name : String} (first : key < name) (value old : Json)
    (rest : List (String × Json)) :
    Json.putMember key value ((name, old) :: rest) = (key, value) :: (name, old) :: rest :=
  if_pos first

theorem putMember_of_gt {key name : String} (later : name < key) (value old : Json)
    (rest : List (String × Json)) :
    Json.putMember key value ((name, old) :: rest) =
      (name, old) :: Json.putMember key value rest := by
  have different : key ≠ name := fun same => String.lt_irrefl key (same ▸ later)
  rw [Json.putMember, if_neg (String.lt_asymm later), if_neg different]

theorem normal_status (result : BackupResult) :
    (BackupStatus.mk result.repository result.succeeded result.error).toJson.normal =
      resultJson result := by
  unfold BackupStatus.toJson resultJson
  cases result.error with
  | none | some error =>
    simp (disch := decide +kernel) only [Json.normal, Json.normalMembers, Json.ofMembers,
      List.foldl, Option.map, Option.toList, List.append_nil, List.cons_append, List.nil_append,
      putMember_of_lt, putMember_of_gt, putMember_nil]

theorem normalItems_statuses (results : List BackupResult) :
    Json.normalItems ((results.map fun result =>
        BackupStatus.mk result.repository result.succeeded result.error).map BackupStatus.toJson) =
      results.map resultJson := by
  induction results with
  | nil => rfl
  | cons result rest inductionHypothesis =>
    show (BackupStatus.mk result.repository result.succeeded result.error).toJson.normal :: _ = _
    rw [normal_status, inductionHypothesis]
    rfl

/-- A volume that was published is told with its size, whether it is new, and the snapshot that it
was filled from where there was one. -/
theorem payloadOf_published (request : Request) (published : Published) :
    payloadOf request (.published published) =
      .object ([("created", .bool published.created)] ++
        (published.restoredFrom.map fun source => ("restored_from", sourceJson source)).toList ++
        [("size_bytes", .whole published.volume.size.bytes),
          ("target_path", .text request.target.text), ("volume_id", .text request.volume)]) := by
  unfold payloadOf publishResponse PublishResponse.toJson
  cases filled : published.restoredFrom with
  | none | some source =>
    simp (disch := decide +kernel) only [filled, RestoredSnapshot.toJson, sourceJson, Json.whole,
      Json.normal, Json.normalMembers, Json.ofMembers, List.foldl, Option.map, Option.toList,
      List.append_nil, List.cons_append, List.nil_append, putMember_of_lt, putMember_of_gt,
      putMember_nil]

/-- A volume that was released is told with the time of the backups, one status for each result in
order, and the warnings where there are any. -/
theorem payloadOf_released (request : Request) (released : Released) :
    payloadOf request (.released released) =
      .object ([("backup_time", .text released.report.time.text),
        ("backups", .list (released.report.results.map resultJson)),
        ("volume_id", .text request.volume)] ++
          if released.warnings = [] then [] else [("warnings", .ofTexts released.warnings)]) := by
  unfold payloadOf unpublishResponse UnpublishResponse.toJson
  rw [← normalItems_statuses, Json.ofTexts, ← normalItems_texts]
  by_cases quiet : released.warnings = []
  · simp (disch := decide +kernel) only [quiet, if_true, Json.normal, Json.normalMembers,
      Json.ofMembers, List.foldl, List.append_nil, putMember_of_lt, putMember_of_gt, putMember_nil]
  · simp (disch := decide +kernel) only [quiet, if_false, Json.ofTexts, Json.normal,
      Json.normalMembers, Json.ofMembers, List.foldl, List.cons_append, List.nil_append,
      putMember_of_lt, putMember_of_gt, putMember_nil]

end Rpc

end NodeAgent
