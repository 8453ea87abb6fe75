/-
This file replaces secrets. A value of the environment of a destination that begins with `secret:`
stands for the secret of the name after it. It is replaced once: a secret that begins in the same
way is taken as it is. The text that holds the secrets is needed only where some value stands for
one.
-/

import NodeAgent.Failure
import NodeAgent.Repository.Destination
import NodeAgent.Toml.Reader

namespace NodeAgent.Secret

/-- What stands before the name of a secret. -/
def mark : String := "secret:"

/-- The name of the secret that a value stands for. -/
def name? (value : String) : Option String :=
  if mark.toList.isPrefixOf value.toList then
    some (String.ofList (value.toList.drop mark.length))
  else none

/-- Whether a value of some destination stands for a secret. -/
def areNeeded (destinations : List Destination) : Bool :=
  destinations.any fun destination =>
    destination.environment.values.any fun value => (name? value).isSome

/-! ### Replacing -/

/-- A value that stands for a secret that is not there. -/
structure Unknown where
  key : String
  repository : String
  name : String
deriving DecidableEq

/-- The failure that an unknown secret is. -/
def Unknown.failure (unknown : Unknown) : Failure :=
  .configuration
    s!"{unknown.key} of {unknown.repository} references unknown secret {unknown.name}"

/-- The values of a destination that stand for secrets that are not there, by key. -/
def unknownOf (secrets : Table String) (destination : Destination) : List Unknown :=
  destination.environment.entries.filterMap fun (key, value) =>
    match name? value with
    | some name =>
      if secrets.contains name then none else some ⟨key, destination.repository, name⟩
    | none => none

/-- What a value stands for. -/
def valueOf (secrets : Table String) (value : String) : String :=
  match name? value with
  | some name => (secrets.get? name).getD value
  | none => value

/-- A destination with its secrets. -/
def reveal (secrets : Table String) (destination : Destination) : Destination :=
  { destination with
    environment := destination.environment.mapValues fun _ value => valueOf secrets value }

/-- A value that stands for no secret stays as it is. -/
theorem valueOf_of_plain (secrets : Table String) {value : String} (plain : name? value = none) :
    valueOf secrets value = value := by
  simp only [valueOf, plain]

/-- Destinations with their secrets; the first unknown one is a failure. -/
def revealAll (secrets : Table String) (destinations : List Destination) :
    Except Failure (List Destination) :=
  match destinations.flatMap (unknownOf secrets) with
  | [] => .ok (destinations.map (reveal secrets))
  | unknown :: _ => .error unknown.failure

/-! ### Reading -/

/-- The texts of a table that holds nothing else. -/
def texts? : List (String × Toml) → Option (Table String)
  | [] => some .empty
  | (key, .text value) :: rest => (texts? rest).map (·.insert key value)
  | _ :: _ => none

/-- Reads the text that holds the secrets: a name and a text on each line. -/
def read? (text : String) : Option (Table String) := (Toml.read text).bind texts?

/-- Destinations with the secrets of a text, which may be missing where none is needed. A text that
cannot be read is a failure whose message leaves out the path of the file and the cause. -/
def resolve (text : Option String) (destinations : List Destination) :
    Except Failure (List Destination) :=
  if areNeeded destinations then
    match text with
    | none => .error (.configuration "Failed to read secret file")
    | some text =>
      match read? text with
      | none => .error (.configuration "Invalid secret file")
      | some secrets => revealAll secrets destinations
  else .ok destinations

/-- Where no value stands for a secret, the text is not looked at. -/
theorem resolve_of_not_needed (text : Option String) {destinations : List Destination}
    (plain : areNeeded destinations = false) : resolve text destinations = .ok destinations := by
  simp only [resolve, plain, Bool.false_eq_true, if_false]

end NodeAgent.Secret
