/-
This file reads configuration texts: lines that give a value to a key, and headers that say which
table the following keys belong to. Lists and tables within a line may nest only so deep.
-/

import NodeAgent.Toml.Item
import NodeAgent.Toml.Moment
import NodeAgent.Toml.Text

namespace NodeAgent.Toml

/-- Reads something off the front of a text. -/
abbrev Reading (Value : Type) := List Char → Option (Value × List Char)

/-- How deep lists and tables may nest within a line. -/
def deepest : Nat := 79

/-- How many points a key may have. -/
def mostPoints : Nat := 78

/-! ### Blanks and comments -/

/-- Drops the blanks of a line. -/
def skipSpaces (text : List Char) : List Char := text.dropWhile isSpace

/-- Drops a comment, where there is one. -/
def skipComment : List Char → List Char
  | '#' :: rest => rest.dropWhile isPlain
  | front => front

/-- Drops the rest of a line that says nothing more. -/
def lineEnd? (text : List Char) : Option (List Char) :=
  match skipComment (skipSpaces text) with
  | [] => some []
  | rest => afterBreak? rest

/-- Drops blanks, line breaks and comments. -/
def skipLines : Bool → List Char → List Char
  | _, [] => []
  | _, '\n' :: rest => skipLines false rest
  | _, '\r' :: '\n' :: rest => skipLines false rest
  | true, c :: rest => if isPlain c then skipLines true rest else c :: rest
  | false, '#' :: rest => skipLines true rest
  | false, c :: rest => if isSpace c then skipLines false rest else c :: rest

/-! ### Keys -/

/-- Whether a character may stand in a key without quotes. -/
def isKeyChar (c : Char) : Bool := c.isAlphanum || c = '_' || c = '-'

/-- A text that was read, as a string. -/
def asString (read : TextRead) : Option (String × List Char) :=
  read.map fun found => (String.ofList found.1, found.2)

/-- Reads a key without points. -/
def key : Reading String
  | '"' :: rest => asString (quotedText rest)
  | front =>
    if front.head? = some singleQuote then asString (literalText front.tail)
    else
      let bare := front.takeWhile isKeyChar
      if bare = [] then none else some (String.ofList bare, front.dropWhile isKeyChar)

/-- Reads a key with at most the given number of points: the parts before the last, and the
last. -/
def path : Nat → Reading (List String × String)
  | 0, front => do
    let (only, rest) ← key (skipSpaces front)
    some (([], only), skipSpaces rest)
  | points + 1, front => do
    let (first, rest) ← key (skipSpaces front)
    match skipSpaces rest with
    | '.' :: rest =>
      let ((before, last), rest) ← path points rest
      some ((first :: before, last), rest)
    | rest => some (([], first), rest)

/-! ### Values -/

/-- Whether a character may stand in a value without quotes. -/
def isBareChar (c : Char) : Bool :=
  c.isAlphanum || c = '+' || c = '-' || c = '_' || c = '.' || c = ':'

/-- The value that is written as a word. -/
def ofWord? (word : List Char) : Option Toml :=
  if word = "true".toList then some (.bool true)
  else if word = "false".toList then some (.bool false)
  else
    match moment? word with
    | some written => some (.moment written)
    | none =>
      match whole? word with
      | some value => some (.whole value)
      | none => (double? word).map .double

/-- The word at the front of a text, and what follows it. A date takes a time that follows it after
one blank. -/
def wordAt (text : List Char) : List Char × List Char :=
  let word := text.takeWhile isBareChar
  let rest := text.dropWhile isBareChar
  match date? word, rest with
  | some (_, []), ' ' :: more =>
    let clock := more.takeWhile isBareChar
    if clock.head?.any Char.isDigit then (word ++ 'T' :: clock, more.dropWhile isBareChar)
    else (word, rest)
  | _, _ => (word, rest)

/-- A text that was read, as a value. -/
def asText (read : TextRead) : Option (Toml × List Char) :=
  read.map fun found => (.text (String.ofList found.1), found.2)

/-- The text after three quotes, without the line break that may follow them. -/
def afterOpening (rest : List Char) : List Char := (afterBreak? rest).getD rest

/-- Reads a value that is neither a list nor a table. -/
def scalar : Reading Toml
  | '"' :: '"' :: '"' :: rest => asText (quotedLines false (afterOpening rest))
  | '"' :: rest => asText (quotedText rest)
  | front =>
    let quotes := (front.take 3).takeWhile (· = singleQuote)
    if quotes.length = 3 then asText (literalLines (afterOpening (front.drop 3)))
    else if quotes ≠ [] then asText (literalText front.tail)
    else
      let (word, rest) := wordAt front
      (ofWord? word).map fun value => (value, rest)

/-- Reads the items of a list after its opening bracket. The first argument is more than the number
of items. -/
def listItems (item : Reading Toml) : Nat → Reading (List Toml)
  | 0, _ => none
  | count + 1, front =>
    match skipLines false front with
    | ']' :: rest => some ([], rest)
    | front => do
      let (first, rest) ← item front
      match skipLines false rest with
      | ']' :: rest => some ([first], rest)
      | ',' :: rest =>
        let (others, rest) ← listItems item count rest
        some (first :: others, rest)
      | _ => none

/-- Reads an entry: a key and its value. -/
def entry (item : Reading Toml) : Reading (List String × String × Toml)
  | front => do
    let ((before, last), rest) ← path mostPoints front
    match rest with
    | '=' :: rest =>
      let (value, rest) ← item (skipSpaces rest)
      some ((before, last, value), rest)
    | _ => none

/-- Reads the entries of a table within a line, of which there is at least one. The first argument
is more than their number. -/
def tableEntries (item : Reading Toml) : Nat → Reading (List (List String × String × Toml))
  | 0, _ => none
  | count + 1, front => do
    let (first, rest) ← entry item front
    match skipSpaces rest with
    | '\x7d' :: rest => some ([first], rest)
    | ',' :: rest =>
      let (others, rest) ← tableEntries item count rest
      some (first :: others, rest)
    | _ => none

/-- Reads the table within a line after its opening brace. -/
def lineTable (item : Reading Toml) : Reading Toml := fun front =>
  match skipSpaces front with
  | '\x7d' :: rest => some (.table [], rest)
  | front => do
    let (entries, rest) ← tableEntries item (front.length + 1) front
    some (← ofEntries? entries, rest)

/-- Reads a value that nests at most so deep. -/
def value : Nat → Reading Toml
  | levels + 1, '[' :: rest =>
    (listItems (value levels) (rest.length + 1) rest).map fun (items, rest) => (.list items, rest)
  | levels + 1, '\x7b' :: rest => lineTable (value levels) rest
  | _, front => scalar front

/-! ### Lines -/

/-- All parts of a key. -/
def allParts (parts : List String × String) : List String := parts.1 ++ [parts.2]

/-- Reads the statement at the front of a text, with its line. -/
def statement : Reading Statement
  | '[' :: '[' :: rest => do
    let (parts, rest) ← path mostPoints rest
    match rest with
    | ']' :: ']' :: rest => some (.listHeader (allParts parts), ← lineEnd? rest)
    | _ => none
  | '[' :: rest => do
    let (parts, rest) ← path mostPoints rest
    match rest with
    | ']' :: rest => some (.header (allParts parts), ← lineEnd? rest)
    | _ => none
  | front => do
    let ((before, last, value), rest) ← entry (value deepest) front
    some (.entry before last value, ← lineEnd? rest)

/-- Reads all statements. The first argument is more than their number. -/
def statements : Nat → List Char → Option (List Statement)
  | 0, _ => none
  | count + 1, front =>
    match skipLines false front with
    | [] => some []
    | front => do
      let (first, rest) ← statement front
      some (first :: (← statements count rest))

/-- The text without a byte order mark before it. -/
def withoutMark : List Char → List Char
  | '\uFEFF' :: rest => rest
  | front => front

/-- Reads a configuration text: its entries. -/
def read (words : String) : Option (List (String × Toml)) := do
  let front := withoutMark words.toList
  let lines ← statements (front.length + 1) front
  some (Item.entriesToToml (← Item.applyAll lines [] []))

end NodeAgent.Toml
