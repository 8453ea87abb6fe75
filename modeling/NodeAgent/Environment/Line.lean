/-
This file cuts a file of variables into lines. A line break inside of quotes does not end a line,
and a number sign after a blank outside of quotes begins a comment. A line that is not complete at
the end of the file is left out.
-/

import NodeAgent.Text.Blank

namespace NodeAgent.Environment

/-- Where a reader of a line stands: outside of quotes, right after a blank there, after a backslash
there, within a pair of quotes, or after a backslash in such a pair. -/
inductive Place where
  | outside
  | blank
  | escape
  | quoted (quote : Char)
  | quotedEscape (quote : Char)
deriving DecidableEq

namespace Place

/-- Whether a character is a quote. -/
def isQuote (c : Char) : Bool := c = '"' || c = '\x27'

/-- The place after a character outside of quotes. -/
def enter (c : Char) : Place :=
  if c = '\\' then .escape
  else if isQuote c then .quoted c
  else .outside

/-- The place after a character. -/
def next (place : Place) (c : Char) : Place :=
  match place with
  | outside => if Text.isBlank c && c ≠ '\n' && c ≠ '\r' then .blank else enter c
  | blank => enter c
  | escape => .outside
  | quoted quote =>
    if c = '\\' then .quotedEscape quote else if c = quote then .outside else .quoted quote
  | quotedEscape quote => .quoted quote

/-- What stands before a comment, where there is one. -/
def beforeComment? : Place → List Char → Option (List Char)
  | _, [] => none
  | place, c :: rest =>
    if place = .blank ∧ c = '#' then some []
    else (beforeComment? (place.next c) rest).map (c :: ·)

end Place

/-- Cuts a text after each line break. -/
def breakLines (text : List Char) : List (List Char) :=
  let parts := Text.splitAt '\n' text
  let last := parts.getLast?.getD []
  parts.dropLast.map (· ++ ['\n']) ++ (if last = [] then [] else [last])

/-- Puts the parts of a text between its line breaks together to lines. The first argument is what
is there of a line already, and the second is the place after that. -/
def gather : List Char → Place → List (List Char) → List (List Char)
  | _, _, [] => []
  | held, place, part :: rest =>
    if ((held ++ part).dropWhile Text.isBlank).head? = some '#' then gather [] .outside rest
    else
      match place.beforeComment? part with
      | some before => (held ++ before) :: gather [] .outside rest
      | none =>
        let after := part.foldl Place.next place
        if after = .outside then (held ++ part) :: gather [] .outside rest
        else gather (held ++ part) after rest

/-- The lines of a file, which may begin with a byte order mark. -/
def lines (text : String) : List (List Char) :=
  let front := text.toList
  gather [] .outside
    (breakLines (if front.head? = some '\uFEFF' then front.tail else front))

end NodeAgent.Environment
