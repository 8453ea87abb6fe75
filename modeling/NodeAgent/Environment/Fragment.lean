/-
This file reads the values of a file of variables. A value is a row of fragments: characters, and
names of variables whose values stand in their place. Quotes hold blanks together; between single
quotes nothing has a meaning of its own.
-/

import NodeAgent.Table
import NodeAgent.Text.Alphanumeric

namespace NodeAgent.Environment

/-- A part of a value. -/
inductive Fragment where
  | char (c : Char)
  | ofVariable (name : String)
deriving DecidableEq

namespace Fragment

/-- The value that is found under a name. A variable and its value are one text with a sign of
equality between them, so what follows such a sign in a name is the beginning of the value. -/
def valueOf? (environment : Table String) (name : String) : Option (List Char) := do
  let (before, after) := name.toList.span (· ≠ '=')
  let value := (← environment.get? (String.ofList before)).toList
  if after = [] then some value
  else
    let opening := after.tail ++ ['=']
    if opening.isPrefixOf value then some (value.drop opening.length) else none

/-- What a fragment stands for. A variable that is not set stands for nothing. -/
def expand (environment : Table String) : Fragment → List Char
  | char c => [c]
  | ofVariable name => (valueOf? environment name).getD []

/-- What a row of fragments stands for. -/
def expandAll (environment : Table String) (fragments : List Fragment) : String :=
  String.ofList (fragments.flatMap (expand environment))

/-! ### Reading -/

/-- Where a reader of a value stands. All but the last two may be within double quotes. The name of
a variable is kept as far as it was read. -/
inductive Standing where
  | text (quoted : Bool)
  | escape (quoted : Bool)
  | name (quoted : Bool) (read : List Char)
  | bracedName (quoted : Bool) (read : List Char)
  | singleQuoted
  | ended
deriving DecidableEq

/-- The character that a character after a backslash stands for. -/
def escaped? (c : Char) : Option Char :=
  if c = 'n' then some '\n'
  else if ['\\', '\x27', '"', '$', ' '].contains c then some c
  else none

/-- Reads a character in a text: the place after it, and whether it stands for itself. -/
def Standing.step (quoted : Bool) (c : Char) : Standing × Bool :=
  if c = '$' then (.name quoted [], false)
  else if c = '\\' then (.escape quoted, false)
  else if c = '"' then (.text !quoted, false)
  else if quoted then (.text true, true)
  else if c = '\x27' then (.singleQuoted, false)
  else if c = ' ' ∨ c = '\t' then (.ended, false)
  else (.text false, true)

/-- Reads the rest of a value. After the blank that ends a value there may only be more blanks and
a comment. A name ends before the first character that is no letter and no number, unless it stands
in braces; that character stands for itself if it begins no other name. -/
def read? : Standing → List Char → Option (List Fragment)
  | .text quoted, [] | .escape quoted, [] => if quoted then none else some []
  | .name quoted read, [] => if quoted then none else some [.ofVariable (String.ofList read)]
  | .bracedName _ _, [] | .singleQuoted, [] => none
  | .ended, [] => some []
  | .text quoted, c :: rest =>
    let (place, isSelf) := Standing.step quoted c
    (read? place rest).map fun fragments => if isSelf then .char c :: fragments else fragments
  | .escape quoted, c :: rest => do
    let meant ← escaped? c
    let fragments ← read? (.text quoted) rest
    some (.char meant :: fragments)
  | .name quoted read, c :: rest =>
    if Text.isAlphanumeric c then read? (.name quoted (read ++ [c])) rest
    else if c = '\x7b' ∧ read = [] then read? (.bracedName quoted []) rest
    else
      let ended := ofVariable (String.ofList read)
      if c = '$' then (read? (.name quoted []) rest).map (ended :: ·)
      else (read? (.text quoted) rest).map fun fragments => ended :: .char c :: fragments
  | .bracedName quoted read, c :: rest =>
    if c = '\x7d' then (read? (.text quoted) rest).map (ofVariable (String.ofList read) :: ·)
    else read? (.bracedName quoted (read ++ [c])) rest
  | .singleQuoted, c :: rest =>
    if c = '\x27' then read? (.text false) rest
    else (read? .singleQuoted rest).map (.char c :: ·)
  | .ended, c :: rest =>
    if c = ' ' ∨ c = '\t' then read? .ended rest
    else if c = '#' then some []
    else none

/-- Reads a value. -/
def readAll? (text : List Char) : Option (List Fragment) := read? (.text false) text

end Fragment

end NodeAgent.Environment
