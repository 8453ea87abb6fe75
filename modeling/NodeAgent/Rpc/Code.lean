/-
This file defines the refusals that a caller gets. The code tells a bad request from an operation
that failed, so every kind of failure has one code.
-/

import NodeAgent.Failure
import NodeAgent.Json.Decoder

namespace NodeAgent.Rpc

/-- The kind of a refusal. -/
inductive Code where
  | invalidRequest
  | methodNotFound
  | invalidParams
  | internalError
  | serializationError
  | volumeNotFound
  | operationFailed
deriving DecidableEq, Inhabited

namespace Code

/-- The code as a caller sees it. -/
def text : Code → String
  | invalidRequest => "INVALID_REQUEST"
  | methodNotFound => "METHOD_NOT_FOUND"
  | invalidParams => "INVALID_PARAMS"
  | internalError => "INTERNAL_ERROR"
  | serializationError => "SERIALIZATION_ERROR"
  | volumeNotFound => "VOLUME_NOT_FOUND"
  | operationFailed => "OPERATION_FAILED"

/-- The name of a code inside JSON. -/
def name : Code → String
  | invalidRequest => "InvalidRequest"
  | methodNotFound => "MethodNotFound"
  | invalidParams => "InvalidParams"
  | internalError => "InternalError"
  | serializationError => "SerializationError"
  | volumeNotFound => "VolumeNotFound"
  | operationFailed => "OperationFailed"

/-- All codes, in order. -/
def all : List Code :=
  [invalidRequest, methodNotFound, invalidParams, internalError, serializationError,
    volumeNotFound, operationFailed]

/-- A code inside JSON. -/
def toJson (code : Code) : Json := .text code.name

/-- Reads the name of a code. -/
def decoder : Json.Decoder Code := .choice (all.map fun code => (code.name, code))

end Code

/-- A refusal: its kind, what is wrong, and more about it where there is more. -/
structure Refusal where
  code : Code
  message : String
  details : Option Json := none
deriving Inhabited

namespace Refusal

/-- The message without any parameters is at fault. -/
def invalidRequest (message : String) : Refusal := { code := .invalidRequest, message }

/-- There is no such method. -/
def methodNotFound (method : String) : Refusal :=
  { code := .methodNotFound, message := s!"方法不存在: {method}" }

/-- The parameters are at fault. -/
def invalidParams (message : String) : Refusal := { code := .invalidParams, message }

/-- A value could not be written or read. -/
def serialization (reason : String) : Refusal :=
  { code := .serializationError, message := s!"序列化错误: {reason}" }

/-- The refusal for a failure. -/
def ofFailure (failure : Failure) : Refusal :=
  let code := match failure with
    | .invalidRequest _ => .invalidParams
    | .notFound _ => .volumeNotFound
    | .serialization _ => .serializationError
    | .internal _ => .internalError
    | .backend _ _ _ | .alreadyExists _ | .configuration _ | .storage _ | .other _ =>
      .operationFailed
  { code, message := failure.message }

/-- The refusal in one line. -/
def text (refusal : Refusal) : String := s!"[{refusal.code.text}] {refusal.message}"

end Refusal

end NodeAgent.Rpc
