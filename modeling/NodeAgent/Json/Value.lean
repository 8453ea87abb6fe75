/-
This file defines JSON values. An object is written in the order in which it holds its members;
the objects that a reader makes hold each key once, in the order of the keys. A number is a whole
number of 64 bits, signed or unsigned, or else a double, kept by its bit pattern so that equality
is exact.
-/

namespace NodeAgent

/-- A number of a JSON text. -/
inductive Json.Number where
  | whole (value : Int)
  | double (bits : UInt64)
deriving DecidableEq, Inhabited

/-- A JSON value. -/
inductive Json where
  | null
  | bool (value : Bool)
  | number (value : Json.Number)
  | text (value : String)
  | list (items : List Json)
  | object (members : List (String × Json))
deriving Inhabited

namespace Json

/-- Writes a member at the place of its key, over an older one. -/
def putMember (key : String) (value : Json) : List (String × Json) → List (String × Json)
  | [] => [(key, value)]
  | (name, old) :: rest =>
    if key < name then (key, value) :: (name, old) :: rest
    else if key = name then (key, value) :: rest
    else (name, old) :: putMember key value rest

/-- The object with the given members; of members with the same key the last one counts. -/
def ofMembers (members : List (String × Json)) : Json :=
  .object (members.foldl (fun done member => putMember member.1 member.2 done) [])

mutual

/-- The value with the members of every object in the order of their keys. -/
def normal : Json → Json
  | .list items => .list (normalItems items)
  | .object members => ofMembers (normalMembers members)
  | other => other

/-- The normal form of each item. -/
def normalItems : List Json → List Json
  | [] => []
  | item :: rest => item.normal :: normalItems rest

/-- The normal form of each member. -/
def normalMembers : List (String × Json) → List (String × Json)
  | [] => []
  | (key, value) :: rest => (key, value.normal) :: normalMembers rest

end

/-- A whole number. -/
def whole (value : Int) : Json := .number (.whole value)

/-- The member of an object at a key. -/
def member? (value : Json) (key : String) : Option Json :=
  match value with
  | .object members => (members.find? fun member => member.1 = key).map Prod.snd
  | _ => none

/-- A text where there is one, and null elsewhere. -/
def ofText? (words : Option String) : Json := (words.map Json.text).getD .null

/-- A list of texts. -/
def ofTexts (texts : List String) : Json := .list (texts.map .text)

end Json

end NodeAgent
