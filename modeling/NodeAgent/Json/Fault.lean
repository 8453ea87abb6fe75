/-
This file lists the ways in which a JSON text fails to be what a reader expects, and words them.
A text is either not JSON, or it is JSON and holds the wrong thing; only the second has a wording,
because it says what the sender has to change.
-/

import NodeAgent.Json.Node
import NodeAgent.Json.Printer
import NodeAgent.Text.Quoted
import NodeAgent.Time.Reader

namespace NodeAgent.Json

/-- What stands where something else was expected. -/
inductive Found where
  | null
  | bool (value : Bool)
  | number (value : Number)
  | text (value : String)
  | list
  | object
deriving DecidableEq

/-- Why a JSON value is not what was expected. -/
inductive Rejection where
  | invalidType (found : Found) (expected : String)
  | invalidValue (found : Found) (expected : String)
  | invalidLength (length : Nat) (expected : String)
  | missingField (name : String)
  | duplicateField (name : String)
  | unknownVariant (name : String) (known : List String)
  | badInstant (fault : Instant.Fault)
  | sizeTooLarge (value : Int)
  | badSize (text : String)
deriving DecidableEq

/-- Why a text is not read. -/
inductive Fault where
  | broken (fault : Break)
  | rejected (why : Rejection)
deriving DecidableEq

/-- The wording of what was found. -/
def Found.phrase : Found → String
  | null => "null"
  | bool value => s!"boolean `{value}`"
  | number (.whole value) => s!"integer `{value}`"
  | number (.double bits) => s!"floating point `{String.ofList (doubleText bits)}`"
  | text words => "string " ++ Text.quoted words
  | list => "sequence"
  | object => "map"

/-- Names between backquotes, as alternatives. -/
def alternatives (names : List String) : String :=
  let marked := names.map fun name => s!"`{name}`"
  match marked with
  | [first] => first
  | [first, second] => first ++ " or " ++ second
  | _ => "one of " ++ String.intercalate ", " marked

/-- The wording of a rejection. -/
def Rejection.message : Rejection → String
  | invalidType found expected => s!"invalid type: {found.phrase}, expected {expected}"
  | invalidValue found expected => s!"invalid value: {found.phrase}, expected {expected}"
  | invalidLength length expected => s!"invalid length {length}, expected {expected}"
  | missingField name => s!"missing field `{name}`"
  | duplicateField name => s!"duplicate field `{name}`"
  | unknownVariant name known => s!"unknown variant `{name}`, expected {alternatives known}"
  | badInstant fault => fault.message
  | sizeTooLarge value => s!"byte size {value} overflows i64"
  | badSize words => s!"invalid byte size: {words}"

/-- The wording of a fault. -/
def Fault.message : Fault → String
  | broken .malformed => "malformed text"
  | broken .truncated => "truncated text"
  | rejected why => why.message

end NodeAgent.Json
