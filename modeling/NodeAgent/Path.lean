/-
This file defines file paths. A path keeps the text it was given and is shown as given, but two
paths are the same place when their components agree: repeated and trailing slashes and inner
`.` components do not matter, while `..` is kept because a link may stand before it.
-/

import NodeAgent.Text.Blank
import NodeAgent.Text.Quoted

namespace NodeAgent

/-- A path as it was written. -/
structure Path where
  text : String
deriving DecidableEq, Inhabited

namespace Path

/-- One step of a path. -/
inductive Component where
  | root
  | here
  | up
  | name (piece : List Char)
deriving DecidableEq

/-- The component that a piece between slashes stands for; `.` and the empty piece stand for
none. -/
def Component.ofPiece? (piece : List Char) : Option Component :=
  if piece = [] ∨ piece = ['.'] then none
  else if piece = ['.', '.'] then some .up
  else some (.name piece)

/-- Whether the path begins at the root. -/
def isAbsolute (path : Path) : Bool := path.text.toList.head? = some '/'

/-- The components of a text. A `.` counts only where a relative path begins with it. -/
def componentsOf (text : List Char) : List Component :=
  let pieces := Text.splitAt '/' text
  let start : List Component :=
    if text.head? = some '/' then [.root] else if pieces.head? = some ['.'] then [.here] else []
  start ++ pieces.filterMap Component.ofPiece?

/-- The components of a path, from its beginning. -/
def components (path : Path) : List Component := componentsOf path.text.toList

/-- Whether two paths are the same place. -/
def same (first second : Path) : Bool := first.components = second.components

/-- The path of `next` seen from `base`: an absolute path stands for itself, any other is
appended after a slash. -/
def join (base next : Path) : Path :=
  if next.isAbsolute then next
  else
    let separator := if base.text.toList.getLast?.all (· = '/') then "" else "/"
    ⟨base.text ++ separator ++ next.text⟩

/-- A named entry of a directory. -/
def entry (directory : Path) (name : String) : Path := directory.join ⟨name⟩

/-- The name at the end of a path, where the path ends in one. -/
def fileName? (path : Path) : Option String :=
  match path.components.getLast? with
  | some (.name piece) => some (String.ofList piece)
  | _ => none

/-- Whether a path is `ancestor` or lies below it. -/
def isWithin (path ancestor : Path) : Bool :=
  ancestor.components.isPrefixOf path.components

/-- The text of one component. -/
def Component.text : Component → List Char
  | .root => []
  | .here => ['.']
  | .up => ['.', '.']
  | .name piece => piece

/-- One text for all spellings of the same place. -/
def canonical (path : Path) : String :=
  match path.components with
  | [.root] => "/"
  | components => String.ofList (List.intercalate ['/'] (components.map Component.text))

/-- The path between quotes, for a message. -/
def quoted (path : Path) : String := Text.quoted path.text

instance : ToString Path := ⟨Path.text⟩

theorem same_refl (path : Path) : path.same path = true := by simp [same]

end Path

end NodeAgent
