/-
This file defines settings: what a configuration text and the environment say together. Names in
settings have no case. A name at the top may be a path into the tables and lists below it. A table
that is set is merged into the one that is there; anything else replaces what is there.
-/

import NodeAgent.Toml.Moment
import NodeAgent.Toml.Text

namespace NodeAgent

/-- A setting. -/
inductive Setting where
  | missing
  | bool (value : Bool)
  | whole (value : Int)
  | double (bits : UInt64)
  | text (value : String)
  | list (items : List Setting)
  | table (entries : List (String × Setting))
deriving Inhabited

namespace Setting

/-- A name without case. Names that are asked for are of letters without accents, so only those are
lowered. -/
def foldCase (name : String) : String := name.map Char.toLower

mutual

/-- The setting that a value of a configuration text stands for. A table that begins with the key of
moments must hold one there; its other entries are not looked at. -/
def ofToml? : Toml → Option Setting
  | .text value => some (text value)
  | .whole value => some (whole value)
  | .double bits => some (double bits)
  | .bool value => some (bool value)
  | .moment written => some (text written)
  | .list items => (ofItems? items).map list
  | .table entries =>
    match Toml.momentIn? entries with
    | some value => (Toml.momentOfText? value).map text
    | none => (ofEntries? entries).map table

/-- The setting of each item. -/
def ofItems? : List Toml → Option (List Setting)
  | [] => some []
  | item :: rest => do return (← ofToml? item) :: (← ofItems? rest)

/-- The setting of each entry. -/
def ofEntries? : List (String × Toml) → Option (List (String × Setting))
  | [] => some []
  | (key, value) :: rest => do return (key, ← ofToml? value) :: (← ofEntries? rest)

end

/-! ### Tables -/

/-- The setting of a name. -/
def lookup (name : String) : List (String × Setting) → Option Setting
  | [] => none
  | (key, value) :: rest => if key = name then some value else lookup name rest

/-- Changes the setting of a name. -/
def alter (name : String) (change : Option Setting → Setting) :
    List (String × Setting) → List (String × Setting)
  | [] => [(name, change none)]
  | (key, value) :: rest =>
    if key = name then (key, change (some value)) :: rest
    else (key, value) :: alter name change rest

/-- The entries of a table; anything else has none. -/
def entries : Setting → List (String × Setting)
  | table entries => entries
  | _ => []

/-- The items of a list; anything else has none. -/
def items : Setting → List Setting
  | list items => items
  | _ => []

/-! ### Merging -/

mutual

/-- What is there after a setting was set over what was there. -/
def setOver (found : Option Setting) : Setting → Setting
  | table [] => found.getD (table [])
  | table (first :: rest) =>
    table (setEntriesOver ((found.map entries).getD []) (first :: rest))
  | other => other

/-- Sets entries one after another. -/
def setEntriesOver (held : List (String × Setting)) :
    List (String × Setting) → List (String × Setting)
  | [] => held
  | (key, value) :: rest =>
    setEntriesOver (alter (foldCase key) (fun found => setOver found value) held) rest

end

/-! ### Paths -/

/-- A step of a path: to a name of a table, or to a position of a list, counted from its end where
it is negative. -/
inductive Step where
  | name (key : String)
  | position (index : Int)
deriving DecidableEq

/-- Whether a character may stand in a name of a path. -/
def isNameChar (c : Char) : Bool := c.isAlphanum || c = '_' || c = '-' || c = ' '

/-- Reads the index of a position. -/
def index? (word : List Char) : Option Int :=
  let (negative, digits) : Bool × List Char := match word with
    | '-' :: digits => (true, digits)
    | digits => (false, digits)
  let size : Int := Json.Numeral.value digits
  let index := if negative then -size else size
  if digits = [] ∨ !digits.all Char.isDigit ∨ !Word.isSigned index then none
  else some index

/-- Reads the steps of a path after its first name. The first argument is more than their number. -/
def steps? : Nat → List Char → Option (List Step)
  | 0, _ => none
  | _ + 1, [] => some []
  | count + 1, '.' :: rest =>
    let name := rest.takeWhile isNameChar
    if name = [] then none
    else (steps? count (rest.dropWhile isNameChar)).map (.name (String.ofList name) :: ·)
  | count + 1, '[' :: rest =>
    match (Text.splitAt ']' rest) with
    | number :: _ :: _ => do
      let index ← index? (Text.trimBy Toml.isSpace number)
      let steps ← steps? count (rest.drop (number.length + 1))
      some (.position index :: steps)
    | _ => none
  | _ + 1, _ => none

/-- The path that a name stands for; a name that is no path stands for itself. -/
def pathOf (name : String) : List Step :=
  let first := name.toList.takeWhile isNameChar
  let rest := name.toList.dropWhile isNameChar
  match steps? (rest.length + 1) rest with
  | some steps => if first = [] then [.name name] else .name (String.ofList first) :: steps
  | none => [.name name]

/-- The position of a list that an index means. -/
def positionOf (index : Int) (length : Nat) : Nat :=
  if 0 ≤ index then index.toNat else length - index.natAbs

/-- A list with a setting at a position, with missing settings before it where it was shorter. -/
def putAt (position : Nat) (change : Option Setting → Setting) (held : List Setting) :
    List Setting :=
  let padded := held ++ List.replicate (position + 1 - held.length) missing
  padded.take position ++ [change padded[position]?] ++ padded.drop (position + 1)

/-- Changes the setting at a path. What is in the way of the path gives way to it. -/
def alterAt (change : Option Setting → Setting) : List Step → Option Setting → Setting
  | [], found => change found
  | .name key :: rest, found =>
    table (alter (foldCase key) (alterAt change rest) ((found.map entries).getD []))
  | .position index :: rest, found =>
    let held := (found.map items).getD []
    list (putAt (positionOf index held.length) (alterAt change rest) held)

/-- Sets the setting of a name, which may be a path. A position of a list is replaced and not
merged into. -/
def assign (held : Setting) (name : String) (value : Setting) : Setting :=
  let path := pathOf name
  let change : Option Setting → Setting := match path.getLast? with
    | some (.position _) => fun _ => value
    | _ => fun found => setOver found value
  alterAt change path (some held)

/-- Sets the settings of some names one after another. -/
def assignAll (held : Setting) (named : List (String × Setting)) : Setting :=
  named.foldl (fun held pair => assign held pair.1 pair.2) held

end Setting

end NodeAgent
