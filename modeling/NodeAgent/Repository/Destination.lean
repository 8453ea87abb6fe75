/-
This file defines the destinations of backups. A destination is the address of a repository with
the environment that gives access to it. The environment holds secrets, so only its names are ever
shown.
-/

import NodeAgent.Json.Decoder
import NodeAgent.Table

namespace NodeAgent

/-- A repository to back up to. -/
structure Destination where
  repository : String
  environment : Table String
deriving DecidableEq, Inhabited

namespace Destination

/-- A destination for messages: its address and the names in its environment. -/
def text (destination : Destination) : String :=
  let names := String.intercalate ", " (destination.environment.keys.map Text.quoted)
  let address := Text.quoted destination.repository
  "Destination \x7b repository: " ++ address ++ ", environment_keys: [" ++ names ++ "] \x7d"

/-- A destination inside JSON. -/
def toJson (destination : Destination) : Json :=
  .object [("repo", .text destination.repository),
    ("environment", .object (destination.environment.entries.map fun entry =>
      (entry.1, .text entry.2)))]

/-- Reads a destination. -/
def decoder : Json.Decoder Destination :=
  (Json.Decoder.record "Destination"
    (.more (.required "repo" .text)
    (.more (.withDefault "environment" (Json.Decoder.text.table.map Table.ofList) .empty)
    .none))).map
  fun (repository, environment, _) => ⟨repository, environment⟩

end Destination

end NodeAgent
