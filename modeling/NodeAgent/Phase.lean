/-
This file names the phases a volume goes through. Publishing goes from presenting over selecting
and restoring a snapshot to the final mount, releasing from the mount at the staging path over the
backups to unpublished.
-/

import NodeAgent.Json.Decoder

namespace NodeAgent

/-- What is being done to a volume, or was done last. -/
inductive Phase where
  | idle
  | presenting
  | selecting
  | restoring
  | finalMounting
  | published
  | stagingRemount
  | backingUp
  | unpublished
  | failed
deriving DecidableEq, Inhabited

namespace Phase

/-- The name of a phase. -/
def text : Phase → String
  | idle => "idle"
  | presenting => "presenting"
  | selecting => "selecting"
  | restoring => "restoring"
  | finalMounting => "final_mounting"
  | published => "published"
  | stagingRemount => "staging_remount"
  | backingUp => "backing_up"
  | unpublished => "unpublished"
  | failed => "failed"

/-- All phases, in order. -/
def all : List Phase :=
  [idle, presenting, selecting, restoring, finalMounting, published, stagingRemount, backingUp,
    unpublished, failed]

/-- A phase inside JSON is its name. -/
def toJson (phase : Phase) : Json := .text phase.text

/-- Reads the name of a phase. -/
def decoder : Json.Decoder Phase := .choice (all.map fun phase => (phase.text, phase))

end Phase

end NodeAgent
