/-
This file defines the frames that arrive over a connection and the messages in them. A binary
frame counts as the text that its octets spell, where they spell one.
-/

import NodeAgent.Rpc.Message
import NodeAgent.Text.Octets

namespace NodeAgent.Rpc

/-- A frame. -/
inductive Frame where
  | text (words : String)
  | binary (octets : List UInt8)
  | control
deriving DecidableEq, Inhabited

/-- What arrives over a connection: a frame, or the fault that ends it. -/
inductive Arrival where
  | frame (frame : Frame)
  | fault
deriving DecidableEq, Inhabited

namespace Frame

/-- The text of a frame. -/
def words? : Frame → Option String
  | text words => some words
  | binary octets => Text.strict? octets
  | control => none

/-- The message in a frame. -/
def message? (frame : Frame) : Option Message :=
  frame.words?.bind fun words =>
    match Message.read words with
    | .ok message => some message
    | .error _ => none

/-- The request in a frame. -/
def request? (frame : Frame) : Option Message :=
  frame.message?.filter fun message => message.kind = .request

end Frame

end NodeAgent.Rpc
