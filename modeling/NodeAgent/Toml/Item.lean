/-
This file builds the tables of a configuration text from its statements. A table may be declared
once, by a header or by the keys that lead into it; what was declared is not declared again, and a
table that a header declared is not added to by the keys of another one.
-/

import NodeAgent.Toml.Value

namespace NodeAgent.Toml

/-- How a table came about: by a header of its own or an element of a list, on the way of the
header of another table, or by a key with points. -/
inductive Declared where
  | byHeader
  | onTheWay
  | byKey
deriving DecidableEq

/-- What stands at a key while the tables are built: a complete value, a table, or the tables of a
list. -/
inductive Item where
  | value (value : Toml)
  | table (declared : Declared) (entries : List (String × Item))
  | tables (elements : List Item)

/-- A line of a configuration text, as far as it says something. -/
inductive Statement where
  | header (path : List String)
  | listHeader (path : List String)
  | entry (path : List String) (key : String) (value : Toml)

namespace Item

/-- Changes what stands at a key, or fails. -/
def alter (key : String) (change : Option Item → Option Item) :
    List (String × Item) → Option (List (String × Item))
  | [] => (change none).map fun item => [(key, item)]
  | (name, item) :: rest =>
    if name = key then (change (some item)).map fun changed => (key, changed) :: rest
    else (alter key change rest).map ((name, item) :: ·)

/-- A change of a table, which may depend on how the table came about. -/
abbrev Change := Declared → List (String × Item) → Option (List (String × Item))

/-- Changes the last element of a list of tables. -/
def changeLast (change : Change) (elements : List Item) : Option (List Item) :=
  match elements.getLast? with
  | some (table _ entries) =>
    (change .byHeader entries).map fun changed => elements.dropLast ++ [table .byHeader changed]
  | _ => none

/-- Changes the table at a path. Missing tables on the way are made. A key may not lead into a
table that a header declared; a list of tables stands for its last element. -/
def descend (byKey : Bool) (change : Change) : List String → Change
  | [] => change
  | key :: rest => fun _ entries =>
    let inner : Change := descend byKey change rest
    entries |> alter key fun found =>
      match found with
      | none =>
        let made : Declared := if byKey then .byKey else .onTheWay
        (inner made []).map (table made)
      | some (table declared held) =>
        if byKey ∧ declared = .byHeader then none else (inner declared held).map (table declared)
      | some (tables elements) => (changeLast inner elements).map tables
      | some (value _) => none

/-- Adds an entry that must be new. The table that a key with points leads into must have come
about by such a key. -/
def addEntry (pointed : Bool) (key : String) (added : Toml) : Change := fun declared entries =>
  if pointed ∧ declared ≠ .byKey then none
  else
    entries |> alter key fun found =>
      match found with
      | none => some (value added)
      | some _ => none

/-- Adds an entry at a key with points before it. -/
def assign (path : List String) (key : String) (added : Toml) : Change :=
  descend true (addEntry (path ≠ []) key added) path

/-- Declares a table. One that only stood on the way of another is declared by that, and goes behind
the other entries. -/
def declare (key : String) : Change := fun _ entries =>
  let others := entries.filter (·.1 ≠ key)
  match entries.find? (·.1 = key) with
  | none => some (others ++ [(key, table .byHeader [])])
  | some (_, table .onTheWay held) => some (others ++ [(key, table .byHeader held)])
  | some _ => none

/-- Adds a table to a list of tables. -/
def enlist (key : String) : Change := fun _ entries =>
  entries |> alter key fun found =>
    match found with
    | none => some (tables [table .byHeader []])
    | some (tables elements) => some (tables (elements ++ [table .byHeader []]))
    | some _ => none

/-- The entries after a statement, with the path of the table that further entries go to. -/
def apply (entries : List (String × Item)) (current : List String) :
    Statement → Option (List (String × Item) × List String)
  | .header path => do
    let changed ← descend false (declare (path.getLast?.getD "")) path.dropLast .byHeader entries
    some (changed, path)
  | .listHeader path => do
    let changed ← descend false (enlist (path.getLast?.getD "")) path.dropLast .byHeader entries
    some (changed, path)
  | .entry path key added => do
    let changed ← descend false (fun _ => assign path key added .byHeader) current .byHeader entries
    some (changed, current)

/-- The entries after some statements. -/
def applyAll : List Statement → List (String × Item) → List String → Option (List (String × Item))
  | [], entries, _ => some entries
  | statement :: rest, entries, current =>
    (apply entries current statement).bind fun (changed, next) => applyAll rest changed next

mutual

/-- The value that was built. -/
def toToml : Item → Toml
  | value complete => complete
  | table _ entries => .table (entriesToToml entries)
  | tables elements => .list (elementsToToml elements)

/-- The value of each entry. -/
def entriesToToml : List (String × Item) → List (String × Toml)
  | [] => []
  | (key, item) :: rest => (key, item.toToml) :: entriesToToml rest

/-- The value of each element. -/
def elementsToToml : List Item → List Toml
  | [] => []
  | item :: rest => item.toToml :: elementsToToml rest

end

end Item

/-- The table of entries whose keys may have points. -/
def ofEntries? (entries : List (List String × String × Toml)) : Option Toml :=
  let statements := entries.map fun entry => Statement.entry entry.1 entry.2.1 entry.2.2
  (Item.applyAll statements [] []).map fun built => .table (Item.entriesToToml built)

end NodeAgent.Toml
