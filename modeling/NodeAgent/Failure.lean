/-
This file defines the failures of the agent. Each kind tells the caller something else to do:
mend the request, look at a tool, or look at the agent.
-/

import NodeAgent.Json.Fault

namespace NodeAgent

/-- Why an operation failed. `backend` is a tool that ended badly, could not be started or took
too long; without a status there was no exit status. -/
inductive Failure where
  | invalidRequest (message : String)
  | backend (command : String) (status : Option Int) (output : String)
  | notFound (message : String)
  | alreadyExists (message : String)
  | configuration (message : String)
  | storage (message : String)
  | serialization (fault : Json.Fault)
  | internal (message : String)
  | other (message : String)
deriving DecidableEq

namespace Failure

/-- A tool that took longer than allowed. -/
def timeout (command : String) (seconds : Nat) : Failure :=
  backend command none s!"timed out after {seconds}s"

/-- The wording of an exit status. -/
def statusText : Option Int → String
  | some status => toString status
  | none => "none"

/-- The wording of a failure. -/
def message : Failure → String
  | invalidRequest message => "无效请求: " ++ message
  | backend command status output =>
    s!"后端命令失败: `{command}` (status: {statusText status}): {output}"
  | notFound message => "资源未找到: " ++ message
  | alreadyExists message => "资源已存在: " ++ message
  | configuration message => "配置错误: " ++ message
  | storage message => "存储错误: " ++ message
  | serialization fault => "序列化错误: " ++ fault.message
  | internal message => "内部错误: " ++ message
  | other message => "其他错误: " ++ message

/-- Whether the request itself is at fault. -/
def isInvalidRequest : Failure → Bool
  | invalidRequest _ => true
  | _ => false

/-- Whether something was not there. -/
def isNotFound : Failure → Bool
  | notFound _ => true
  | _ => false

/-- Whether a tool failed. -/
def isBackendFailure : Failure → Bool
  | backend _ _ _ => true
  | _ => false

end Failure

end NodeAgent
