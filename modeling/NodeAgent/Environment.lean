/-
This file reads files of variables. Each line sets a variable; a variable that is set already is
left as it is, and the first line that cannot be read ends the reading. A value may use the
variables that are set by then.
-/

import NodeAgent.Environment.Fragment
import NodeAgent.Environment.Line

namespace NodeAgent.Environment

/-- A line that gives a value to a variable. -/
structure Assignment where
  name : String
  value : List Fragment
deriving DecidableEq

/-- Drops the blanks at the front of a text. -/
def skipBlanks (text : List Char) : List Char := text.dropWhile Text.isBlank

/-- Whether a character may begin a name. -/
def isNameStart (c : Char) : Bool := c.isAlpha || c = '_'

/-- Whether a character may stand in a name. -/
def isNameChar (c : Char) : Bool := c.isAlphanum || c = '_' || c = '.'

/-- Reads a name and the blanks after it. -/
def name? : List Char → Option (List Char × List Char)
  | [] => none
  | c :: rest =>
    if isNameStart c then
      some (c :: rest.takeWhile isNameChar, skipBlanks (rest.dropWhile isNameChar))
    else none

/-- Reads the name of a line up to the sign of equality. The word `export` may stand before it. -/
def target? (text : List Char) : Option (String × List Char) := do
  let (first, rest) ← name? text
  match rest with
  | '=' :: rest => some (String.ofList first, rest)
  | rest =>
    if first = "export".toList then
      match ← name? rest with
      | (name, '=' :: rest) => some (String.ofList name, rest)
      | _ => none
    else none

/-- Reads a line. A line that is blank or a comment gives nothing. -/
def assignment? (line : List Char) : Option (Option Assignment) :=
  let text := skipBlanks (Text.trimEnd Text.isBlank line)
  if text = [] ∨ text.head? = some '#' then some none
  else do
    let (name, rest) ← target? text
    let rest := skipBlanks rest
    if rest.head? = some '#' then some (some ⟨name, []⟩)
    else
      let value ← Fragment.readAll? rest
      some (some ⟨name, value⟩)

/-- Sets a variable that is not set yet. -/
def provide (environment : Table String) (name value : String) : Table String :=
  if environment.contains name then environment else environment.insert name value

/-- Sets the variables of some lines. -/
def provideAll (environment : Table String) : List (List Char) → Table String
  | [] => environment
  | line :: rest =>
    match assignment? line with
    | none => environment
    | some none => provideAll environment rest
    | some (some assignment) =>
      provideAll (provide environment assignment.name
        (Fragment.expandAll environment assignment.value)) rest

/-- The environment with the variables of a file, where there is one. -/
def withFile (environment : Table String) (text : Option String) : Table String :=
  provideAll environment ((text.map lines).getD [])

/-! ### What is set already -/

variable {environment : Table String} {name value : String}

theorem get?_provide (known : environment.get? name = some value) (other given : String) :
    (provide environment other given).get? name = some value := by
  unfold provide
  split
  · exact known
  · next unset =>
    have different : name ≠ other := by
      rintro rfl
      exact unset (by rw [Table.contains, known]; rfl)
    rw [Table.get?_insert_other environment given different, known]

theorem get?_provideAll (known : environment.get? name = some value) (lines : List (List Char)) :
    (provideAll environment lines).get? name = some value := by
  induction lines generalizing environment with
  | nil => exact known
  | cons line rest inductionHypothesis =>
    rw [provideAll]
    split
    · exact known
    · exact inductionHypothesis known
    · exact inductionHypothesis (get?_provide known _ _)

/-- Whatever a file says, a variable that is set already is left as it is. -/
theorem get?_withFile (known : environment.get? name = some value) (text : Option String) :
    (withFile environment text).get? name = some value :=
  get?_provideAll known _

end NodeAgent.Environment
