/-
This file serves an orchestrator over one connection. The node registers first; only a response
without an error accepts it. Then every request is answered, and whatever else arrives is passed
over. Requests are answered in the order of their arrival, which is one of the orders in which the
answers of concurrent requests can come.
-/

import NodeAgent.Rpc.Frame
import NodeAgent.Rpc.Handler

namespace NodeAgent.Rpc

/-- Why a node was not registered. -/
inductive RegistrationFault where
  | noReply
  | lost
  | unreadable
  | rejected (reason : String)
deriving DecidableEq

/-- What was sent over a connection, and whether the node was registered. -/
structure Transcript where
  sent : List Message
  registered : Except RegistrationFault Unit

namespace Session

/-- The request that registers a node. Its id has a part that no other request has. -/
def registration (unique : String) (node : Registration) : Message :=
  .request ("req-" ++ unique) registerMethod node.toJson.normal

/-- Whether the first arrival accepts the registration. -/
def accepted : List Arrival → Except RegistrationFault Unit
  | [] => .error .noReply
  | .fault :: _ => .error .lost
  | .frame frame :: _ =>
    match frame.message? with
    | none => .error .unreadable
    | some message =>
      if message.isSuccess then .ok ()
      else .error (.rejected ((message.error.map (·.message)).getD "unexpected reply"))

/-- The requests that arrive before the connection ends. -/
def requests : List Arrival → List Message
  | [] | .fault :: _ => []
  | .frame frame :: rest => frame.request?.toList ++ requests rest

/-- Answers requests one after another. -/
def answerAll (settings : Settings) (now : Instant) :
    List Message → StateT Agent (Dialogue backends) (List Message)
  | [] => return []
  | request :: rest => do
    let answered ← answer settings now request
    let others ← answerAll settings now rest
    return answered :: others

/-- Serves over one connection. -/
def serve (settings : Settings) (now : Instant) (unique : String) (node : Registration)
    (arrivals : List Arrival) : StateT Agent (Dialogue backends) Transcript := do
  let first := registration unique node
  match accepted arrivals with
  | .error fault => return ⟨[first], .error fault⟩
  | .ok () =>
    let answers ← answerAll settings now (requests arrivals.tail)
    return ⟨first :: answers, .ok ()⟩

end Session

end NodeAgent.Rpc
