/-
This file builds the tree of a JSON text from its tokens. The tree keeps a fault where it was
found, so a reader that goes through the tree in reading order meets it exactly when it gets
there, and one that refuses an earlier part never sees it.
-/

import NodeAgent.Json.Token

namespace NodeAgent.Json

/-- How a list or an object ends. `dangling` means that a comma was read and no member after it,
`misplaced` that the first member begins with something other than a text. -/
inductive Ending (Node : Type) where
  | closed
  | broken (wanted passed : Break)
  | dangling (wanted passed : Break)
  | misplaced (found : Node)

/-- A part of a JSON text. -/
inductive Node where
  | null
  | bool (value : Bool)
  | number (value : Except Break Number)
  | text (value : Except Break String)
  | list (items : List Node) (ending : Ending Node)
  | object (entries : List (Except Break String × Node)) (ending : Ending Node)
  | broken (start : Start) (wanted passed : Break)

instance : Inhabited Node := ⟨.null⟩

/-- A whole text: its value, and whether anything but blanks follows it. -/
structure Document where
  root : Node
  surplus : Bool

/-! ### Building -/

/-- A container that is still open, its parts last first. `member` has a key that waits for its
value. -/
inductive Frame where
  | list (items : List Node)
  | object (entries : List (Except Break String × Node))
  | member (entries : List (Except Break String × Node)) (key : Except Break String)

/-- What may come next. -/
inductive Expected where
  | value
  | firstItem
  | firstKey
  | key
  | colon
  | separator
deriving DecidableEq

namespace Frame

/-- The frame with one more part. -/
def attach (frame : Frame) (part : Node) : Frame :=
  match frame with
  | list items => list (part :: items)
  | object entries => object entries
  | member entries key => object ((key, part) :: entries)

/-- The container of a frame with the given ending. -/
def close (frame : Frame) (ending : Ending Node) : Node :=
  match frame with
  | list items => .list items.reverse ending
  | object entries => .object entries.reverse ending
  | member entries _ => .object entries.reverse ending

end Frame

/-- Closes all open containers around a part after which reading stopped. -/
def collapse (part : Node) (wanted passed : Break) : List Frame → Node
  | [] => part
  | frame :: below =>
    collapse ((frame.attach part).close (.broken wanted passed)) wanted passed below

/-- A text that breaks off where a value was expected. -/
def breakOff (start : Start) (wanted passed : Break) (stack : List Frame) : Document :=
  ⟨collapse (.broken start wanted passed) wanted passed stack, false⟩

/-- A text that breaks off inside the innermost container. -/
def breakInside (ending : Ending Node) (wanted passed : Break) : List Frame → Document
  | [] => ⟨.broken .nothing wanted passed, false⟩
  | frame :: below => ⟨collapse (frame.close ending) wanted passed below, false⟩

/-- The node of a token that is a value or the beginning of one. -/
def Token.node? : Token → Option Node
  | .null => some .null
  | .bool value => some (.bool value)
  | .number value => some (.number value)
  | .text value => some (.text value)
  | .openList => some (.list [] .closed)
  | .openObject => some (.object [] .closed)
  | .broken .nothing _ _ => none
  | .broken start wanted passed => some (.broken start wanted passed)
  | .closeList | .closeObject | .comma | .colon => none

/-- Builds the tree from the tokens that are left, what is expected next and the open containers,
innermost first. What a token means as a value, or as a fault, is only computed where it counts. -/
def grow : List Token → Expected → List Frame → Document
  | [], expected, stack =>
    match expected with
    | .value | .colon => breakOff .nothing .truncated .truncated stack
    | .firstItem | .firstKey | .separator =>
      breakInside (.broken .truncated .truncated) .truncated .truncated stack
    | .key => breakInside (.dangling .truncated .truncated) .truncated .truncated stack
  | token :: rest, expected, stack =>
    let settle (node : Node) (stack : List Frame) : Document :=
      match stack with
      | [] => ⟨node, !rest.isEmpty⟩
      | frame :: below => grow rest .separator (frame.attach node :: below)
    let value (_ : Unit) : Document :=
      match token with
      | .openList => grow rest .firstItem (.list [] :: stack)
      | .openObject => grow rest .firstKey (.object [] :: stack)
      | .broken start wanted passed => breakOff start wanted passed stack
      | token =>
        match token.node? with
        | some node => settle node stack
        | none => breakOff .nothing .malformed .malformed stack
    let wrong (_ : Unit) : Document :=
      breakInside (.broken .malformed .malformed) .malformed .malformed stack
    match expected with
    | .value => value ()
    | .firstItem =>
      match token, stack with
      | .closeList, .list items :: below => settle (.list items.reverse .closed) below
      | _, _ => value ()
    | .firstKey =>
      match token, stack with
      | .closeObject, .object entries :: below => settle (.object entries.reverse .closed) below
      | .text key, .object entries :: below => grow rest .colon (.member entries key :: below)
      | .broken .text wanted passed, _ =>
        breakInside (.broken wanted passed) wanted passed stack
      | token, _ =>
        match token.node? with
        | some node => breakInside (.misplaced node) .malformed .malformed stack
        | none => wrong ()
    | .key =>
      match token, stack with
      | .text key, .object entries :: below => grow rest .colon (.member entries key :: below)
      | .broken .text wanted passed, _ =>
        breakInside (.dangling wanted passed) wanted passed stack
      | _, _ => breakInside (.dangling .malformed .malformed) .malformed .malformed stack
    | .colon =>
      match token with
      | .colon => grow rest .value stack
      | _ => breakOff .nothing .malformed .malformed stack
    | .separator =>
      match token, stack with
      | .comma, .list _ :: _ => grow rest .value stack
      | .comma, .object _ :: _ => grow rest .key stack
      | .closeList, .list items :: below => settle (.list items.reverse .closed) below
      | .closeObject, .object entries :: below => settle (.object entries.reverse .closed) below
      | _, _ => wrong ()

/-- The tree of a text. -/
def document (glyphs : List Text.Glyph) : Document := grow (tokens glyphs) .value []

/-! ### Passing over a part -/

namespace Ending

/-- The fault that a reader of the parts meets at the end of a container. -/
def wanted {Node : Type} : Ending Node → Except Break Unit
  | closed => .ok ()
  | broken fault _ | dangling fault _ => .error fault
  | misplaced _ => .error .malformed

/-- The fault that is met at the end of a container that is passed over. -/
def passed {Node : Type} : Ending Node → Except Break Unit
  | closed => .ok ()
  | broken _ fault | dangling _ fault => .error fault
  | misplaced _ => .error .malformed

end Ending

mutual

/-- Passes over a part: nothing but its shape matters. -/
def Node.pass : Node → Except Break Unit
  | .null | .bool _ | .number _ | .text _ => .ok ()
  | .list items ending => do
    passItems items
    ending.passed
  | .object entries ending => do
    passEntries entries
    ending.passed
  | .broken _ _ passed => .error passed

/-- Passes over the items of a list. -/
def passItems : List Node → Except Break Unit
  | [] => .ok ()
  | item :: rest => do
    item.pass
    passItems rest

/-- Passes over the members of an object. -/
def passEntries : List (Except Break String × Node) → Except Break Unit
  | [] => .ok ()
  | (_, value) :: rest => do
    value.pass
    passEntries rest

end

/-! ### Reading a part as a value -/

/-- The number of containers inside one another beyond which a text is refused. -/
def deepest : Nat := 127

mutual

/-- The value of a part that lies inside `depth` containers. -/
def Node.value (depth : Nat) : Node → Except Break Json
  | .null => .ok .null
  | .bool value => .ok (.bool value)
  | .number value => value.map .number
  | .text value => value.map .text
  | .list items ending => do
    if deepest ≤ depth then throw .malformed
    let values ← itemValues (depth + 1) items
    ending.wanted
    pure (.list values)
  | .object entries ending => do
    if deepest ≤ depth then throw .malformed
    let members ← entryValues (depth + 1) entries
    ending.wanted
    pure (ofMembers members)
  | .broken _ wanted _ => .error wanted

/-- The values of the items of a list. -/
def itemValues (depth : Nat) : List Node → Except Break (List Json)
  | [] => .ok []
  | item :: rest => do
    let value ← item.value depth
    let values ← itemValues depth rest
    pure (value :: values)

/-- The members of an object. -/
def entryValues (depth : Nat) :
    List (Except Break String × Node) → Except Break (List (String × Json))
  | [] => .ok []
  | (key, value) :: rest => do
    let key ← key
    let value ← value.value depth
    let members ← entryValues depth rest
    pure ((key, value) :: members)

end

/-- Reads a JSON text. -/
def read (glyphs : List Text.Glyph) : Except Break Json := do
  let document := document glyphs
  let value ← document.root.value 0
  if document.surplus then throw .malformed
  pure value

/-! ### Values as parts -/

mutual

/-- A value as a part of a text without faults. -/
def node : Json → Node
  | .null => .null
  | .bool value => .bool value
  | .number value => .number (.ok value)
  | .text words => .text (.ok words)
  | .list items => .list (itemNodes items) .closed
  | .object members => .object (memberNodes members) .closed

/-- The parts of the items of a list. -/
def itemNodes : List Json → List Node
  | [] => []
  | item :: rest => item.node :: itemNodes rest

/-- The parts of the members of an object. -/
def memberNodes : List (String × Json) → List (Except Break String × Node)
  | [] => []
  | (key, value) :: rest => (.ok key, value.node) :: memberNodes rest

end

end NodeAgent.Json
