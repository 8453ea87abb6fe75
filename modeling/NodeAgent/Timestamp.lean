/-
This file defines the time of a backup. One time is taken when a release begins and every
destination records that one. It is cut to whole seconds, because the tool that writes it takes no
fractions.
-/

import NodeAgent.Json.Decoder

namespace NodeAgent

/-- The time of a backup. -/
structure Timestamp where
  instant : Instant
deriving DecidableEq, Inhabited

namespace Timestamp

/-- The time of a backup that begins at an instant. -/
def ofInstant (instant : Instant) : Timestamp := ⟨instant.wholeSecond⟩

/-- The time as the backup tool takes it. -/
def argument (time : Timestamp) : String :=
  String.ofList (time.instant.dateText ++ ' ' :: time.instant.clockText)

/-- The time in a message. -/
def text (time : Timestamp) : String := time.instant.displayText

instance : ToString Timestamp := ⟨text⟩

/-- The time inside JSON. -/
def toJson (time : Timestamp) : Json := .text time.instant.wireText

/-- Reads a time; a fraction of a second is kept. -/
def decoder : Json.Decoder Timestamp := Json.Decoder.instant.map Timestamp.mk

end Timestamp

end NodeAgent
