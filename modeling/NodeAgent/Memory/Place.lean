/-
This file walks along paths in a tree of directories. A walk passes one place after another. Nothing
comes behind a file, and names and paths are only so long.
-/

import NodeAgent.Host.Invocation
import NodeAgent.Path

namespace NodeAgent.Memory

/-- A place in a tree of directories: its names from the last to the first. The root has none. -/
abbrev Place := List (List Char)

namespace Place

/-- The place at which paths begin that do not begin at the root. No name is empty, so it is none of
the places below the root. -/
def here : Place := [[]]

/-- The file that is empty whenever it is read. -/
def nullDevice : Place := ["null".toList, "dev".toList]

/-- The most octets of a name. -/
def longestName : Nat := 255

/-- The most octets of a path. -/
def longestPath : Nat := 4095

/-- The names and dots of a path. -/
def parts (path : Path) : List (List Char) := (Text.splitAt '/' path.text.toList).filter (· ≠ [])

/-- The place after one more part of a path. -/
def next (place : Place) (part : List Char) : Place :=
  if part = ['.'] then place else if part = ['.', '.'] then place.tail else part :: place

/-- The places that a walk from a place passes, in their order. -/
def walk (files : List Place) (place : Place) : List (List Char) → Except SystemFault (List Place)
  | [] => .ok []
  | part :: rest =>
    if place ∈ files then .error (.numbered 20)
    else if longestName < (String.ofList part).utf8ByteSize then .error (.numbered 36)
    else (walk files (place.next part) rest).map (place.next part :: ·)

/-- The place at which a path begins. -/
def start (path : Path) : Place := if path.isAbsolute then [] else here

/-- The places that a path passes, in their order. -/
def passed (files : List Place) (path : Path) : Except SystemFault (List Place) :=
  if path.text.toList.contains '\x00' then .error .nullInPath
  else if longestPath < path.text.utf8ByteSize then .error (.numbered 36)
  else walk files (start path) (parts path)

/-- Whether a place is one of some places or lies on the way to one. -/
def isOnWay (place : Place) (places : List Place) : Bool := places.any (place.isSuffixOf ·)

end Place

/-- The text that is read at a path, where there are only the null device and some files in the
working directory. -/
def textAt? (files : Table String) (path : Path) : Option String :=
  let places := Place.nullDevice :: files.keys.map fun name => [name.toList] ++ Place.here
  match Place.passed places path with
  | .error _ => none
  | .ok passed =>
    if path.text.toList.getLast? = some '/' ∨ !passed.all (·.isOnWay places) then none
    else if passed.getLast? = some Place.nullDevice then some ""
    else
      match passed.getLast? with
      | some (name :: place) =>
        if place = Place.here then files.get? (String.ofList name) else none
      | _ => none

end NodeAgent.Memory
