/-
This file answers requests. A request names its method; its payload is read, the agent does the
work, and the answer has the id of the request and either a payload or an error. A request that
names no known method, or whose payload is not what the method takes, does not reach the agent.
-/

import NodeAgent.Agent
import NodeAgent.Rpc.Message
import NodeAgent.Rpc.Payload

namespace NodeAgent.Rpc

/-- A step of answering: it uses the agent and may end in a refusal. -/
abbrev Handling (Result : Type) :=
  ExceptT Refusal (StateT Agent (Dialogue backends)) Result

/-- An operation of the agent, as a step of answering. -/
def Handling.ofOperation {Result : Type} (operation : Operation Agent Result) : Handling Result :=
  ExceptT.mk ((·.mapError Refusal.ofFailure) <$> operation.run)

/-- Reads the parameters of a method. -/
def parameters {Value : Type} (decoder : Json.Decoder Value) (payload : Json) : Handling Value :=
  match Json.decodeValue decoder payload with
  | .ok value => pure value
  | .error fault => throw (.invalidParams s!"参数错误: {fault.message}")

/-- The answer to a volume that was published. -/
def publishResponse (request : PublishRequest) (published : Published) : PublishResponse :=
  { volumeId := request.volumeId
    targetPath := request.targetPath
    size := published.volume.size.bytes
    created := published.created
    restoredFrom := published.restoredFrom.map fun source =>
      ⟨source.destination.repository, source.snapshot.id, source.snapshot.time.displayText⟩ }

/-- The answer to a volume that was released. -/
def unpublishResponse (request : UnpublishRequest) (released : Released) : UnpublishResponse :=
  { volumeId := request.volumeId
    backupTime := released.report.time.text
    backups := released.report.results.map fun result =>
      ⟨result.repository, result.succeeded, result.error⟩
    warnings := released.warnings }

/-- Publishes a volume for a request. -/
def handlePublish (settings : Settings) (now : Instant) (payload : Json) : Handling Json := do
  let request ← parameters PublishRequest.decoder payload
  let published ← .ofOperation
    (Agent.publish settings now request.volumeId ⟨request.targetPath⟩ request.capacity)
  return (publishResponse request published).toJson.normal

/-- Releases a volume for a request. -/
def handleUnpublish (settings : Settings) (now : Instant) (payload : Json) : Handling Json := do
  let request ← parameters UnpublishRequest.decoder payload
  let released ← .ofOperation
    (Agent.unpublish settings now request.volumeId ⟨request.targetPath⟩)
  return (unpublishResponse request released).toJson.normal

/-- Carries out a method. -/
def dispatch (settings : Settings) (now : Instant) (method : String) (payload : Json) :
    Handling Json :=
  if method = publishMethod then handlePublish settings now payload
  else if method = unpublishMethod then handleUnpublish settings now payload
  else throw (.methodNotFound method)

/-- Answers a request. -/
def answer (settings : Settings) (now : Instant) (message : Message) :
    StateT Agent (Dialogue backends) Message := do
  match message.method with
  | none => return .refuse message.id (.invalidRequest "缺少方法名")
  | some method =>
    match ← (dispatch settings now method (message.payload.getD .null)).run with
    | .ok payload => return .response message.id payload
    | .error refusal => return .refuse message.id refusal

end NodeAgent.Rpc
