/-
This file sorts the answers that messages get. A message without a method, with a method that nobody
knows, or with parameters that do not pass is refused with the code that says so, and nothing is
asked or changed for it. Every other message is carried out, and its answer tells what came of it;
since no later step blames the request, the three codes are given to no other message.
-/

import NodeAgent.Proofs.Answering
import NodeAgent.Proofs.Blaming
import NodeAgent.Proofs.Errand

namespace NodeAgent

open Operation

namespace Rpc

/-- A message fits where it names one of the methods and its payload is read as what the method
takes, with an id, a path and for a publish a size that pass. -/
inductive Fits (settings : Settings) (message : Message) : Prop where
  | publish {request : PublishRequest} (method : message.method = some publishMethod)
      (decoded :
        Json.decodeValue PublishRequest.decoder (message.payload.getD .null) = .ok request)
      (named : checkVolumeId request.volumeId = .ok ())
      (placed : checkTargetPath ⟨request.targetPath⟩ = .ok ())
      (sized : 0 < (Agent.sizeFor settings request.capacity).bytes) : Fits settings message
  | unpublish {request : UnpublishRequest} (method : message.method = some unpublishMethod)
      (decoded :
        Json.decodeValue UnpublishRequest.decoder (message.payload.getD .null) = .ok request)
      (named : checkVolumeId request.volumeId = .ok ())
      (placed : checkTargetPath ⟨request.targetPath⟩ = .ok ()) : Fits settings message

/-- The message names one of the methods. -/
def Known (message : Message) : Prop :=
  message.method = some publishMethod ∨ message.method = some unpublishMethod

/-- How a message is understood. -/
inductive Understood (settings : Settings) (now : Instant) (message : Message) :
    Except Refusal Request → Prop where
  | unnamed {words} (method : message.method = none) :
      Understood settings now message (.error (.invalidRequest words))
  | unknown {method} (named : message.method = some method) (other : ¬Known message) :
      Understood settings now message (.error (.methodNotFound method))
  | unreadable {words} (known : Known message) (unfit : ¬Fits settings message) :
      Understood settings now message (.error (.invalidParams words))
  | asked {request} (known : Known message)
      (passes : request.check settings = .ok () ↔ Fits settings message) :
      Understood settings now message (.ok request)

variable {settings : Settings} {now : Instant} {message reply : Message} {agent after : Agent}
  {exchanges : List (Exchange backends)}

theorem publishMethod_ne_unpublishMethod : publishMethod ≠ unpublishMethod := by
  decide

theorem fits_publish_iff {request : PublishRequest} (method : message.method = some publishMethod)
    (decoded : Json.decodeValue PublishRequest.decoder (message.payload.getD .null) = .ok request) :
    Fits settings message ↔
      Agent.checkPublish settings request.volumeId ⟨request.targetPath⟩ request.capacity =
        .ok () := by
  rw [Agent.checkPublish_eq_ok_iff]
  constructor
  · intro fits
    cases fits with
    | publish _ again named placed sized =>
      cases decoded.symm.trans again
      exact ⟨named, placed, sized⟩
    | unpublish other =>
      exact absurd (Option.some.inj (method.symm.trans other)) publishMethod_ne_unpublishMethod
  · rintro ⟨named, placed, sized⟩
    exact .publish method decoded named placed sized

theorem fits_unpublish_iff {request : UnpublishRequest}
    (method : message.method = some unpublishMethod)
    (decoded :
      Json.decodeValue UnpublishRequest.decoder (message.payload.getD .null) = .ok request) :
    Fits settings message ↔
      Agent.checkUnpublish request.volumeId ⟨request.targetPath⟩ = .ok () := by
  rw [Agent.checkUnpublish_eq_ok_iff]
  constructor
  · intro fits
    cases fits with
    | publish other =>
      exact absurd (Option.some.inj (other.symm.trans method)) publishMethod_ne_unpublishMethod
    | unpublish _ again named placed =>
      cases decoded.symm.trans again
      exact ⟨named, placed⟩
  · rintro ⟨named, placed⟩
    exact .unpublish method decoded named placed

/-- Every message is understood in one of these ways. -/
theorem understood_understand (settings : Settings) (now : Instant) (message : Message) :
    Understood settings now message (understand now message) := by
  unfold understand
  cases named : message.method with
  | none => exact .unnamed named
  | some method =>
    dsimp only
    unfold requestFor parameters?
    by_cases publishes : method = publishMethod
    · rw [if_pos publishes]
      rw [publishes] at named
      cases decoded : Json.decodeValue PublishRequest.decoder (message.payload.getD .null) with
      | ok request => exact .asked (Or.inl named) (fits_publish_iff named decoded).symm
      | error fault =>
        refine .unreadable (Or.inl named) fun fits => ?_
        cases fits with
        | publish _ read => cases decoded.symm.trans read
        | unpublish other =>
          exact publishMethod_ne_unpublishMethod (Option.some.inj (named.symm.trans other))
    rw [if_neg publishes]
    by_cases releases : method = unpublishMethod
    · rw [if_pos releases]
      rw [releases] at named
      cases decoded : Json.decodeValue UnpublishRequest.decoder (message.payload.getD .null) with
      | ok request => exact .asked (Or.inr named) (fits_unpublish_iff named decoded).symm
      | error fault =>
        refine .unreadable (Or.inr named) fun fits => ?_
        cases fits with
        | publish other =>
          exact publishMethod_ne_unpublishMethod (Option.some.inj (other.symm.trans named))
        | unpublish _ read => cases decoded.symm.trans read
    rw [if_neg releases]
    refine .unknown named fun known => ?_
    rcases known with same | same
    · exact publishes (Option.some.inj (named.symm.trans same))
    · exact releases (Option.some.inj (named.symm.trans same))

end Rpc

/-! ### Requests that are refused and requests that fail -/

namespace Request

variable {settings : Settings} {request : Request} {agent after : Agent}
  {exchanges : List (Exchange backends)} {failure : Failure}

theorem isInvalidRequest_of_check (refused : request.check settings = .error failure) :
    failure.isInvalidRequest = true := by
  cases request with
  | publish => exact Agent.isInvalidRequest_of_checkPublish refused
  | unpublish => exact Agent.isInvalidRequest_of_checkUnpublish refused

/-- A request that passes its check and fails has an account of its failure. -/
theorem accountsFor_of_valid (valid : request.check settings = .ok ())
    (conversation : Converses (request.operation settings) agent exchanges (.error failure)
      after) :
    AccountsFor exchanges failure := by
  cases request with
  | publish now volume target capacity =>
    obtain ⟨given, held, same⟩ := converses_reply_iff.1 conversation
    obtain ⟨progress, course⟩ := Agent.publishes_of_converses held
    cases given with
    | ok published => cases same
    | error told =>
      cases same
      exact course.accountsFor valid
  | unpublish now volume target =>
    obtain ⟨given, held, same⟩ := converses_reply_iff.1 conversation
    cases given with
    | ok released => cases same
    | error told =>
      cases same
      exact (Agent.releases_of_converses held).accountsFor valid

end Request

/-! ### The classes of answers -/

namespace Rpc

/-- The class of an answer is the code of its error, or that it has none. -/
inductive Sorted (settings : Settings) (message : Message) (idle : Prop) : Option Code → Prop where
  | unnamed (method : message.method = none) (still : idle) :
      Sorted settings message idle (some .invalidRequest)
  | unknown {method} (named : message.method = some method) (other : ¬Known message)
      (still : idle) : Sorted settings message idle (some .methodNotFound)
  | unfit (known : Known message) (unfit : ¬Fits settings message) (still : idle) :
      Sorted settings message idle (some .invalidParams)
  | failed {failure : Failure} (fits : Fits settings message)
      (blameless : failure.isInvalidRequest = false) :
      Sorted settings message idle (some (Refusal.ofFailure failure).code)
  | served (fits : Fits settings message) : Sorted settings message idle none

variable {settings : Settings} {now : Instant} {message reply : Message} {agent after : Agent}
  {exchanges : List (Exchange backends)}

theorem Fits.known (fits : Fits settings message) : Known message := by
  cases fits with
  | publish method => exact Or.inl method
  | unpublish method => exact Or.inr method

theorem Known.named (known : Known message) : message.method ≠ none := by
  intro unnamed
  rcases known with same | same
  · cases unnamed.symm.trans same
  · cases unnamed.symm.trans same

theorem code_ofFailure_of_blaming {failure : Failure}
    (blames : failure.isInvalidRequest = true) :
    (Refusal.ofFailure failure).code = .invalidParams := by
  cases failure with
  | invalidRequest => rfl
  | _ => cases blames

theorem code_ofFailure_of_blameless {failure : Failure}
    (blameless : failure.isInvalidRequest = false) :
    (Refusal.ofFailure failure).code ≠ .invalidRequest ∧
      (Refusal.ofFailure failure).code ≠ .methodNotFound ∧
      (Refusal.ofFailure failure).code ≠ .invalidParams := by
  cases failure with
  | invalidRequest => cases blameless
  | _ => exact ⟨nofun, nofun, nofun⟩

theorem text_injective : Function.Injective Code.text := by
  intro first second same
  cases first <;> cases second <;> first | rfl | exact absurd same (by decide)

/-- Every answer is in the class that its message belongs to, as long as no answer of the backends
blames the request. -/
theorem Answers.exists_sorted
    (answers : Answers settings now message agent exchanges reply after)
    (blameless : ∀ failure, AccountsFor exchanges failure → failure.isInvalidRequest = false) :
    ∃ code, Sorted settings message (exchanges = [] ∧ after = agent) code ∧
      reply.error.map (·.code) = code.map Code.text := by
  have way := understood_understand settings now message
  cases answers with
  | refused refused =>
    rw [refused] at way
    cases way with
    | unnamed method => exact ⟨_, .unnamed method ⟨rfl, rfl⟩, rfl⟩
    | unknown named other => exact ⟨_, .unknown named other ⟨rfl, rfl⟩, rfl⟩
    | unreadable known unfit => exact ⟨_, .unfit known unfit ⟨rfl, rfl⟩, rfl⟩
  | @concluded request _ outcome _ understood conversation =>
    rw [understood] at way
    cases way with
    | asked known passes =>
      cases checked : request.check settings with
      | error failure =>
        have unfit : ¬Fits settings message := fun fits => by
          cases checked.symm.trans (passes.2 fits)
        obtain ⟨rfl, rfl, still⟩ :=
          (Request.converses_operation_iff_of_refused checked).1 conversation
        have code := code_ofFailure_of_blaming (Request.isInvalidRequest_of_check checked)
        exact ⟨_, .unfit known unfit ⟨rfl, still⟩, congrArg (some ∘ Code.text) code⟩
      | ok _ =>
        have fits := passes.1 checked
        cases outcome with
        | ok given => exact ⟨none, .served fits, rfl⟩
        | error failure =>
          have accounts := Request.accountsFor_of_valid checked conversation
          exact ⟨_, .failed fits (blameless failure accounts), rfl⟩

/-- The three codes are given to the messages that they are for and to no other. -/
theorem Sorted.codes {idle : Prop} {code : Option Code}
    (sorted : Sorted settings message idle code) :
    (code = some .invalidRequest ↔ message.method = none) ∧
      (code = some .methodNotFound ↔ message.method ≠ none ∧ ¬Known message) ∧
      (code = some .invalidParams ↔ Known message ∧ ¬Fits settings message) ∧
      (¬Fits settings message → idle) := by
  cases sorted with
  | unnamed method still =>
    have unknown : ¬Known message := fun known => known.named method
    exact ⟨iff_of_true rfl method, iff_of_false nofun fun both => both.1 method,
      iff_of_false nofun fun both => unknown both.1, fun _ => still⟩
  | unknown named other still =>
    have present : message.method ≠ none := fun none => by cases named.symm.trans none
    exact ⟨iff_of_false nofun present, iff_of_true rfl ⟨present, other⟩,
      iff_of_false nofun fun both => other both.1, fun _ => still⟩
  | unfit known unfit still =>
    exact ⟨iff_of_false nofun known.named, iff_of_false nofun fun both => both.2 known,
      iff_of_true rfl ⟨known, unfit⟩, fun _ => still⟩
  | failed fits blameless =>
    obtain ⟨notUnnamed, notUnknown, notUnfit⟩ := code_ofFailure_of_blameless blameless
    exact ⟨iff_of_false (fun same => notUnnamed (Option.some.inj same)) fits.known.named,
      iff_of_false (fun same => notUnknown (Option.some.inj same)) fun both => both.2 fits.known,
      iff_of_false (fun same => notUnfit (Option.some.inj same)) fun both => both.2 fits,
      fun unfit => absurd fits unfit⟩
  | served fits =>
    exact ⟨iff_of_false nofun fits.known.named, iff_of_false nofun fun both => both.2 fits.known,
      iff_of_false nofun fun both => both.2 fits, fun unfit => absurd fits unfit⟩

/-- An answer is a response to its message, with either a payload or an error. -/
theorem Answers.shape (answers : Answers settings now message agent exchanges reply after) :
    reply.id = message.id ∧ reply.kind = .response ∧ reply.method = none ∧
      reply.payload.isSome = reply.error.isNone := by
  cases answers with
  | refused => exact ⟨rfl, rfl, rfl, rfl⟩
  | concluded => exact shape_conclude ..

theorem understand_publish {request : PublishRequest}
    (method : message.method = some publishMethod)
    (decoded : Json.decodeValue PublishRequest.decoder (message.payload.getD .null) = .ok request) :
    understand now message =
      .ok (.publish now request.volumeId ⟨request.targetPath⟩ request.capacity) := by
  unfold understand
  rw [method]
  dsimp only
  unfold requestFor parameters?
  rw [if_pos rfl, decoded]
  rfl

theorem understand_unpublish {request : UnpublishRequest}
    (method : message.method = some unpublishMethod)
    (decoded :
      Json.decodeValue UnpublishRequest.decoder (message.payload.getD .null) = .ok request) :
    understand now message = .ok (.unpublish now request.volumeId ⟨request.targetPath⟩) := by
  unfold understand
  rw [method]
  dsimp only
  unfold requestFor parameters?
  rw [if_neg publishMethod_ne_unpublishMethod.symm, if_pos rfl, decoded]
  rfl

/-! ### What an answer tells of an outcome -/

/-- The answer tells with which code and words something failed. -/
def TellsFailure (failure : Failure) (reply : Message) : Prop :=
  reply.error = some ⟨(Refusal.ofFailure failure).code.text, failure.message, none⟩

/-- The answer tells what came of a publish: the size of the volume, whether it is new, and the
snapshot that it was filled from where there was one. -/
def TellsPublish (request : PublishRequest) (outcome : Except Failure Published)
    (reply : Message) : Prop :=
  (∀ published, outcome = .ok published → reply.payload =
    some (.object ([("created", .bool published.created)] ++
      (published.restoredFrom.map fun source => ("restored_from", sourceJson source)).toList ++
      [("size_bytes", .whole published.volume.size.bytes),
        ("target_path", .text request.targetPath), ("volume_id", .text request.volumeId)]))) ∧
  ∀ failure, outcome = .error failure → TellsFailure failure reply

/-- The answer tells what came of a release: the time of its backups, how each of them ended, and
all warnings. There is one result for each destination in order, unless the backups were skipped. -/
def TellsRelease (settings : Settings) (now : Instant) (request : UnpublishRequest)
    (outcome : Except Failure Released) (reply : Message) : Prop :=
  (∀ released, outcome = .ok released →
    reply.payload = some (.object ([("backup_time", .text released.report.time.text),
      ("backups", .list (released.report.results.map resultJson)),
      ("volume_id", .text request.volumeId)] ++
        if released.warnings = [] then [] else [("warnings", .ofTexts released.warnings)])) ∧
    released.report.time = .ofInstant now ∧
    released.report.results.map (·.repository) =
      if released.skipped = none then settings.destinations.map (·.repository) else []) ∧
  ∀ failure, outcome = .error failure → TellsFailure failure reply

end Rpc

theorem Backup.repositories_of_backupEach {volume : String} {source : Path} {time : Timestamp}
    {destinations : List Destination} {exchanges : List (Exchange backends)}
    {results : List BackupResult}
    (held : Dialogue.Held (backupEach volume source time destinations) exchanges results) :
    results.map (·.repository) = destinations.map (·.repository) := by
  induction destinations generalizing exchanges results with
  | nil =>
    rw [(held_done_iff.1 held).2]
    rfl
  | cons destination rest inductionHypothesis =>
    cases held with
    | ask ended others =>
      obtain ⟨_, _, following, rfl, held, done⟩ := Dialogue.held_bind_iff.1 others
      obtain ⟨rfl, rfl⟩ := held_done_iff.1 done
      have named : (resultOf destination ended).repository = destination.repository := by
        unfold resultOf
        dsimp only
        split <;> rfl
      rw [List.map_cons, List.map_cons, named, inductionHypothesis held]

namespace Agent

variable {settings : Settings} {now : Instant} {volume : String} {target : Path}
  {agent after : Agent} {exchanges : List (Exchange backends)}

/-- A release that comes out well has the time of the request and one result for each destination,
or none where it skipped the backups. -/
theorem Releases.results_eq {released : Released}
    (course : Releases settings now volume target agent exchanges (.ok released) after) :
    released.report.time = .ofInstant now ∧
      released.report.results.map (·.repository) =
        if released.skipped = none then settings.destinations.map (·.repository) else [] := by
  generalize ended : (Except.ok released : Except Failure Released) = outcome at course
  cases course with
  | refused | unlisted | missing => cases ended
  | @departed _ current _ _ _ _ _ looked departs =>
    generalize agent.skipReason? current volume = reason at departs
    cases departs with
    | stuck | unstaged => cases ended
    | skipped left =>
      cases ended
      exact ⟨rfl, rfl⟩
    | @backedUp _ _ _ _ _ _ _ _ _ freed _ left staged backed unmounted =>
      cases freed with
      | error told => cases ended
      | ok volume =>
        cases ended
        obtain ⟨_, _, results, _, each, done⟩ := Dialogue.held_bind_iff.1 backed
        obtain ⟨_, rfl⟩ := held_done_iff.1 done
        exact ⟨rfl, Backup.repositories_of_backupEach each⟩

end Agent

theorem converses_lift_iff {State Result : Type}
    {stateful : StateT State (Dialogue backends) Result} {before after : State}
    {exchanges : List (Exchange backends)} {outcome : Except Failure Result} :
    Converses (ExceptT.lift stateful) before exchanges outcome after ↔
      ∃ result, outcome = .ok result ∧
        Dialogue.Held (stateful.run before) exchanges (result, after) := by
  refine held_andThen_done_iff.trans ?_
  constructor
  · rintro ⟨⟨result, state⟩, held, same⟩
    obtain ⟨rfl, rfl⟩ := Prod.mk.inj same
    exact ⟨result, rfl, held⟩
  · rintro ⟨result, rfl, held⟩
    exact ⟨(result, after), held, rfl⟩

/-- Every message gets one answer of the right class. Whatever the message says, whatever the agent
knows and whatever the backends in memory have and fail at, the answer is a response with the id of
the message, without a method, and with either a payload or an error. The codes for a request
without a method, for an unknown method and for bad parameters are given exactly where they apply;
then nothing is asked and nothing changes. Otherwise the answer tells what came of the request: the
code and the words of its failure, or all of its outcome. -/
theorem Memory.every_message_answered (settings : Settings) (now : Instant)
    (message : Rpc.Message) (agent : Agent) (world : Backends) :
    ∃ reply after last,
      world.hold agent (ExceptT.lift (Rpc.answer settings now message)) =
        ((.ok reply, after), last) ∧
      (reply.id = message.id ∧ reply.kind = .response ∧ reply.method = none ∧
        reply.payload.isSome = reply.error.isNone) ∧
      (reply.error.map (·.code) = some "INVALID_REQUEST" ↔ message.method = none) ∧
      (reply.error.map (·.code) = some "METHOD_NOT_FOUND" ↔
        message.method ≠ none ∧ ¬Rpc.Known message) ∧
      (reply.error.map (·.code) = some "INVALID_PARAMS" ↔
        Rpc.Known message ∧ ¬Rpc.Fits settings message) ∧
      (¬Rpc.Fits settings message →
        world.heard ((Rpc.answer settings now message).run agent) = [] ∧ after = agent ∧
          last = world) ∧
      (∀ request, message.method = some Rpc.publishMethod →
        Json.decodeValue Rpc.PublishRequest.decoder (message.payload.getD .null) = .ok request →
        ∃ outcome,
          world.hold agent (Agent.publish settings now request.volumeId ⟨request.targetPath⟩
            request.capacity) = ((outcome, after), last) ∧
          Rpc.TellsPublish request outcome reply) ∧
      ∀ request, message.method = some Rpc.unpublishMethod →
        Json.decodeValue Rpc.UnpublishRequest.decoder (message.payload.getD .null) = .ok request →
        ∃ outcome,
          world.hold agent (Agent.unpublish settings now request.volumeId ⟨request.targetPath⟩) =
            ((outcome, after), last) ∧
          Rpc.TellsRelease settings now request outcome reply := by
  generalize held : world.hold agent (ExceptT.lift (Rpc.answer settings now message)) = all
  obtain ⟨⟨given, after⟩, last⟩ := all
  obtain ⟨exchanges, lifted, answered⟩ := Backends.hold_iff.1 held
  obtain ⟨reply, rfl, conversation⟩ := converses_lift_iff.1 lifted
  have answers := Rpc.answers_iff.1 conversation
  obtain ⟨code, sorted, coded⟩ := answers.exists_sorted fun _ => answered.not_isInvalidRequest
  have codes := sorted.codes
  have text (one : Rpc.Code) : reply.error.map (·.code) = some one.text ↔ code = some one := by
    rw [coded, Option.map_eq_some_iff]
    constructor
    · rintro ⟨same, rfl, told⟩
      exact congrArg some (Rpc.text_injective told)
    · rintro rfl
      exact ⟨one, rfl, rfl⟩
  refine ⟨reply, after, last, rfl, answers.shape, (text .invalidRequest).trans codes.1,
    (text .methodNotFound).trans codes.2.1, (text .invalidParams).trans codes.2.2.1, ?_, ?_, ?_⟩
  · intro unfit
    obtain ⟨rfl, rfl⟩ := codes.2.2.2 unfit
    rw [← answered.eq_heard conversation]
    cases answered
    exact ⟨rfl, rfl, rfl⟩
  · intro request method decoded
    obtain ⟨concluded, carried, rfl⟩ :=
      (Rpc.answers_iff_of_understood (Rpc.understand_publish method decoded)).1 answers
    obtain ⟨outcome, published, rfl⟩ := Request.converses_reply_iff.1 carried
    refine ⟨outcome, Backends.hold_iff.2 ⟨exchanges, published, answered⟩, ?_, ?_⟩
    · rintro published rfl
      exact congrArg some (Rpc.payloadOf_published ..)
    · rintro failure rfl
      rfl
  · intro request method decoded
    obtain ⟨concluded, carried, rfl⟩ :=
      (Rpc.answers_iff_of_understood (Rpc.understand_unpublish method decoded)).1 answers
    obtain ⟨outcome, released, rfl⟩ := Request.converses_reply_iff.1 carried
    refine ⟨outcome, Backends.hold_iff.2 ⟨exchanges, released, answered⟩, ?_, ?_⟩
    · rintro given rfl
      exact ⟨congrArg some (Rpc.payloadOf_released ..),
        (Agent.releases_of_converses released).results_eq⟩
    · rintro failure rfl
      rfl

end NodeAgent
