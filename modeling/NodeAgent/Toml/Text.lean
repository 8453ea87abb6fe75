/-
This file reads the texts of a configuration text: between double quotes with escapes, between
single quotes without, and both over several lines between three quotes. Over several lines a line
break is always a single line feed, and a break after a backslash is left out with all blanks and
breaks after it.
-/

import NodeAgent.Toml.Number

namespace NodeAgent.Toml

/-- A text that was read, and what follows it. -/
abbrev TextRead := Option (List Char × List Char)

/-- Puts characters before a text that was read. -/
def prepend (before : List Char) (read : TextRead) : TextRead :=
  read.map fun found => (before ++ found.1, found.2)

/-- Whether a character may stand in a text or a comment: no control character but the tab. -/
def isPlain (c : Char) : Bool := c = '\t' || (' ' ≤ c && c ≠ '\x7F')

/-- Whether a character is a blank within a line. -/
def isSpace (c : Char) : Bool := c = ' ' || c = '\t'

/-- The quote that texts without escapes stand between. -/
def singleQuote : Char := '\x27'

/-- What a line break leaves, where a text begins with one. -/
def afterBreak? : List Char → Option (List Char)
  | '\n' :: rest => some rest
  | '\r' :: '\n' :: rest => some rest
  | _ => none

/-- The character that a letter after a backslash stands for. -/
def escape? : Char → Option Char
  | 'b' => some '\x08'
  | 't' => some '\t'
  | 'n' => some '\n'
  | 'f' => some '\x0C'
  | 'r' => some '\r'
  | '"' => some '"'
  | '\\' => some '\\'
  | _ => none

/-- The character whose code point is written in hexadecimal digits. -/
def codePoint? (digits : List Char) : Option Char :=
  let code := digits.foldl (fun sum digit => sum * 16 + digitValue digit) 0
  if digits.all isHexDigit ∧ code.isValidChar then some (Char.ofNat code) else none

/-- Reads a text after its opening double quote. -/
def quotedText : List Char → TextRead
  | [] => none
  | '"' :: rest => some ([], rest)
  | '\\' :: 'u' :: a :: b :: c :: d :: rest =>
    (codePoint? [a, b, c, d]).bind fun read => prepend [read] (quotedText rest)
  | '\\' :: 'U' :: a :: b :: c :: d :: e :: f :: g :: h :: rest =>
    (codePoint? [a, b, c, d, e, f, g, h]).bind fun read => prepend [read] (quotedText rest)
  | '\\' :: letter :: rest => (escape? letter).bind fun read => prepend [read] (quotedText rest)
  | c :: rest => if isPlain c ∧ c ≠ '\\' then prepend [c] (quotedText rest) else none

/-- Reads a text after its opening single quote. -/
def literalText : List Char → TextRead
  | [] => none
  | c :: rest =>
    if c = singleQuote then some ([], rest)
    else if isPlain c then prepend [c] (literalText rest)
    else none

/-- The end of a text between three quotes, after the three: one or two more quotes belong to the
text. -/
def closing (quote : Char) (rest : List Char) : List Char × List Char :=
  let extra := (rest.take 2).takeWhile (· = quote)
  (extra, rest.drop extra.length)

/-- Reads a text after its three opening double quotes. `skipping` says that a line break was left
out and blanks after it are too. -/
def quotedLines : Bool → List Char → TextRead
  | _, [] => none
  | skipping, '\r' :: '\n' :: rest =>
    if skipping then quotedLines true rest else prepend ['\n'] (quotedLines false rest)
  | _, '"' :: '"' :: '"' :: rest => some (closing '"' rest)
  | _, '\\' :: 'u' :: a :: b :: c :: d :: rest =>
    (codePoint? [a, b, c, d]).bind fun read => prepend [read] (quotedLines false rest)
  | _, '\\' :: 'U' :: a :: b :: c :: d :: e :: f :: g :: h :: rest =>
    (codePoint? [a, b, c, d, e, f, g, h]).bind fun read => prepend [read] (quotedLines false rest)
  | _, '\\' :: letter :: rest =>
    if (afterBreak? ((letter :: rest).dropWhile isSpace)).isSome then quotedLines true rest
    else (escape? letter).bind fun read => prepend [read] (quotedLines false rest)
  | skipping, c :: rest =>
    if skipping ∧ (isSpace c ∨ c = '\n') then quotedLines true rest
    else if c = '\n' ∨ (isPlain c ∧ c ≠ '\\') then prepend [c] (quotedLines false rest)
    else none

/-- Reads a text after its three opening single quotes. -/
def literalLines : List Char → TextRead
  | [] => none
  | '\r' :: '\n' :: rest => prepend ['\n'] (literalLines rest)
  | c :: d :: e :: rest =>
    if c = singleQuote ∧ d = singleQuote ∧ e = singleQuote then some (closing singleQuote rest)
    else if c = '\n' ∨ isPlain c then prepend [c] (literalLines (d :: e :: rest))
    else none
  | c :: rest => if c = '\n' ∨ isPlain c then prepend [c] (literalLines rest) else none

end NodeAgent.Toml
