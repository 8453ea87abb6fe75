/-
This file defines the messages between the agent and the orchestrator. A request names a method
and has a payload; its response has the same id and either a payload or an error. Parts that a
message does not have are left out of its text, while a payload that is null is written.
-/

import NodeAgent.Rpc.Code

namespace NodeAgent.Rpc

/-- What a message is. -/
inductive Kind where
  | request
  | response
  | notification
deriving DecidableEq, Inhabited

/-- The error of a response. -/
structure ErrorInfo where
  code : String
  message : String
  details : Option Json
deriving Inhabited

/-- A message. -/
structure Message where
  id : String
  kind : Kind
  method : Option String
  payload : Option Json
  error : Option ErrorInfo
deriving Inhabited

namespace Kind

/-- The name of a kind. -/
def text : Kind → String
  | request => "request"
  | response => "response"
  | notification => "notification"

/-- Reads the name of a kind. -/
def decoder : Json.Decoder Kind :=
  .choice ([request, response, notification].map fun kind => (kind.text, kind))

end Kind

namespace ErrorInfo

/-- An error inside JSON. -/
def toJson (error : ErrorInfo) : Json :=
  .object ([("code", .text error.code), ("message", .text error.message)] ++
    (error.details.map fun details => ("details", details)).toList)

/-- Reads an error. -/
def decoder : Json.Decoder ErrorInfo :=
  (Json.Decoder.record "RpcErrorInfo"
    (.more (.required "code" .text)
    (.more (.required "message" .text)
    (.more (.optional "details" .any)
    .none)))).map
  fun (code, message, details, _) => ⟨code, message, details⟩

end ErrorInfo

namespace Message

/-- A request with an id of its own. -/
def request (id method : String) (payload : Json) : Message :=
  ⟨id, .request, some method, some payload, none⟩

/-- The answer to the request of an id. -/
def response (id : String) (payload : Json) : Message :=
  ⟨id, .response, none, some payload, none⟩

/-- The refusal of the request of an id. -/
def errorResponse (id code message : String) (details : Option Json) : Message :=
  ⟨id, .response, none, none, some ⟨code, message, details⟩⟩

/-- The refusal of the request of an id. -/
def refuse (id : String) (refusal : Refusal) : Message :=
  errorResponse id refusal.code.text refusal.message refusal.details

/-- Whether the message is a response without an error. -/
def isSuccess (message : Message) : Bool :=
  message.kind = .response && message.error.isNone

/-- A message inside JSON. -/
def toJson (message : Message) : Json :=
  .object ([("id", .text message.id), ("type", .text message.kind.text)] ++
    (message.method.map fun method => ("method", .text method)).toList ++
    (message.payload.map fun payload => ("payload", payload)).toList ++
    (message.error.map fun error => ("error", error.toJson)).toList)

/-- The text of a message. -/
def print (message : Message) : String := message.toJson.print

/-- Reads a message. -/
def decoder : Json.Decoder Message :=
  (Json.Decoder.record "RpcMessage"
    (.more (.required "id" .text)
    (.more (.required "type" Kind.decoder)
    (.more (.optional "method" .text)
    (.more (.optional "payload" .any)
    (.more (.optional "error" ErrorInfo.decoder)
    .none)))))).map
  fun (id, kind, method, payload, error, _) => ⟨id, kind, method, payload, error⟩

/-- Reads the text of a message. -/
def read (text : String) : Except Json.Fault Message := Json.decodeText decoder text

end Message

end NodeAgent.Rpc
