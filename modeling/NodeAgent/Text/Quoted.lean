/-
This file writes a text between double quotes so that it fits on one line of a message: a
backslash stands before quotes, backslashes and the common controls, and every other character
without a glyph of its own is written by its code point.
-/

import NodeAgent.Text.Printable

namespace NodeAgent.Text

/-- The written form of one character between quotes. -/
def quotedChar (c : Char) : List Char :=
  if c = '"' then ['\\', '"']
  else if c = '\\' then ['\\', '\\']
  else if c = '\n' then ['\\', 'n']
  else if c = '\r' then ['\\', 'r']
  else if c = '\t' then ['\\', 't']
  else if c.toNat = 0 then ['\\', '0']
  else if isPrintable c then [c]
  else ['\\', 'u', '\x7b'] ++ Nat.toDigits 16 c.toNat ++ ['\x7d']

/-- A text between double quotes, on one line. -/
def quoted (text : String) : String :=
  String.ofList ('"' :: text.toList.flatMap quotedChar ++ ['"'])

end NodeAgent.Text
