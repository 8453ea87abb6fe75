/-
This file splits a JSON text into tokens. Reading goes on glyph by glyph in one state; it stops at
the first glyph that cannot go on. A value may be wanted or only passed over, and the two differ:
escapes must pair up and numbers must have a value only where a value is wanted, and a number that
breaks off at the end of the text counts as cut short only there. A token keeps what both need.
-/

import NodeAgent.Json.Numeral
import NodeAgent.Text.Octets

namespace NodeAgent.Json

open Text (Glyph)

/-- How a text fails to be JSON: it goes on wrongly, or it ends too early. -/
inductive Break where
  | malformed
  | truncated
deriving DecidableEq, Inhabited

/-- What a value that breaks off had begun to be. -/
inductive Start where
  | nothing
  | scalar
  | text
deriving DecidableEq, Inhabited

/-- A token. Of a broken one, `wanted` is the fault for a reader of the value and `passed` the
fault for a reader that passes over it. -/
inductive Token where
  | openList
  | closeList
  | openObject
  | closeObject
  | comma
  | colon
  | null
  | bool (value : Bool)
  | number (value : Except Break Number)
  | text (value : Except Break String)
  | broken (start : Start) (wanted passed : Break)

/-! ### Numbers -/

/-- How far a numeral is read. -/
inductive NumeralStage where
  | sign
  | zero
  | integer
  | point
  | fraction
  | mark
  | exponentSign
  | exponent
deriving DecidableEq

/-- A numeral being read, its digits last first. -/
structure NumeralState where
  numeral : Numeral
  stage : NumeralStage

/-- What a numeral state makes of one more character. -/
inductive Move where
  | more (state : NumeralState)
  | complete
  | wrong

namespace NumeralState

/-- A digit after the point. -/
def addFraction (numeral : Numeral) (digit : Char) : Numeral :=
  { numeral with fraction := some (digit :: numeral.fraction.getD []) }

/-- A digit of the power of ten. -/
def addExponent (numeral : Numeral) (digit : Char) : Numeral :=
  let (negative, digits) := numeral.exponent.getD (false, [])
  { numeral with exponent := some (negative, digit :: digits) }

/-- After the integer part: a point, a power of ten, or the end. -/
def afterInteger (numeral : Numeral) (c : Char) : Move :=
  if c = '.' then .more ⟨{ numeral with fraction := some [] }, .point⟩
  else if c = 'e' ∨ c = 'E' then .more ⟨{ numeral with exponent := some (false, []) }, .mark⟩
  else .complete

/-- Reads one more character of a numeral. -/
def move (state : NumeralState) (c : Char) : Move :=
  let numeral := state.numeral
  match state.stage with
  | .sign =>
    if c = '0' then .more ⟨{ numeral with integer := ['0'] }, .zero⟩
    else if c.isDigit then .more ⟨{ numeral with integer := [c] }, .integer⟩
    else .wrong
  | .zero => if c.isDigit then .wrong else afterInteger numeral c
  | .integer =>
    if c.isDigit then .more ⟨{ numeral with integer := c :: numeral.integer }, .integer⟩
    else afterInteger numeral c
  | .point => if c.isDigit then .more ⟨addFraction numeral c, .fraction⟩ else .wrong
  | .fraction =>
    if c.isDigit then .more ⟨addFraction numeral c, .fraction⟩
    else if c = 'e' ∨ c = 'E' then .more ⟨{ numeral with exponent := some (false, []) }, .mark⟩
    else .complete
  | .mark =>
    if c = '+' then .more ⟨numeral, .exponentSign⟩
    else if c = '-' then .more ⟨{ numeral with exponent := some (true, []) }, .exponentSign⟩
    else if c.isDigit then .more ⟨addExponent numeral c, .exponent⟩
    else .wrong
  | .exponentSign => if c.isDigit then .more ⟨addExponent numeral c, .exponent⟩ else .wrong
  | .exponent => if c.isDigit then .more ⟨addExponent numeral c, .exponent⟩ else .complete

/-- Whether the numeral may end here. -/
def mayEnd (state : NumeralState) : Bool :=
  match state.stage with
  | .zero | .integer | .fraction | .exponent => true
  | .sign | .point | .mark | .exponentSign => false

/-- The numeral with its digits in reading order. -/
def complete (state : NumeralState) : Numeral :=
  let numeral := state.numeral
  { numeral with
    integer := numeral.integer.reverse
    fraction := numeral.fraction.map List.reverse
    exponent := numeral.exponent.map fun (negative, digits) => (negative, digits.reverse) }

/-- The token of a numeral that is complete. -/
def token (state : NumeralState) : Token :=
  .number (match state.complete.number? with
    | some found => .ok found
    | none => .error .malformed)

end NumeralState

/-! ### Texts -/

/-- Where in a text the reader is: among plain characters, after a backslash, or in the four
hexadecimal digits of an escape. `lead` is a first half of a pair that waits for its second. -/
inductive TextStage where
  | plain
  | escape
  | hex (lead : Option Nat) (count value : Nat)
  | paired (lead : Nat)
  | pairedEscape (lead : Nat)
deriving DecidableEq

/-- A text being read: its glyphs, last first, and whether an escape failed to pair up. -/
structure TextState where
  glyphs : List Glyph
  unpaired : Bool
  stage : TextStage

namespace TextState

/-- The character of an escape of two characters. -/
def escapeChar? (c : Char) : Option Char :=
  if c = '"' ∨ c = '\\' ∨ c = '/' then some c
  else if c = 'b' then some (Char.ofNat 0x08)
  else if c = 'f' then some (Char.ofNat 0x0C)
  else if c = 'n' then some '\n'
  else if c = 'r' then some '\r'
  else if c = 't' then some '\t'
  else none

/-- The value of a hexadecimal digit. -/
def hexValue? (c : Char) : Option Nat :=
  if c.isDigit then some (c.toNat - '0'.toNat)
  else if 'a' ≤ c ∧ c ≤ 'f' then some (c.toNat - 'a'.toNat + 10)
  else if 'A' ≤ c ∧ c ≤ 'F' then some (c.toNat - 'A'.toNat + 10)
  else none

/-- What a text state makes of one more glyph. -/
inductive Move where
  | more (state : TextState)
  | complete (value : Except Break String)
  | wrong (fault : Break)

/-- The text of the glyphs read, where it is whole. -/
def value (state : TextState) : Except Break String :=
  if state.unpaired then .error .malformed
  else
    match Glyph.text? state.glyphs.reverse with
    | some characters => .ok (String.ofList characters)
    | none => .error .malformed

/-- Appends a character. -/
def push (state : TextState) (c : Char) : TextState :=
  ⟨.char c :: state.glyphs, state.unpaired, .plain⟩

/-- Reads a glyph among plain characters. -/
def movePlain (state : TextState) : Glyph → Move
  | .stray octets => .more ⟨.stray octets :: state.glyphs, state.unpaired, .plain⟩
  | .char c =>
    if c = '"' then .complete state.value
    else if c = '\\' then .more { state with stage := .escape }
    else if c.toNat < 0x20 then .wrong .malformed
    else .more (state.push c)

/-- Reads the glyph after a backslash. -/
def moveEscape (state : TextState) : Glyph → Move
  | .stray _ => .wrong .malformed
  | .char c =>
    if c = 'u' then .more { state with stage := .hex none 0 0 }
    else
      match escapeChar? c with
      | some escaped => .more (state.push escaped)
      | none => .wrong .malformed

/-- Settles an escape by its code unit, which may be half of a pair. -/
def settle (state : TextState) (lead : Option Nat) (unit : Nat) : TextState :=
  match lead with
  | some first =>
    if 0xDC00 ≤ unit ∧ unit ≤ 0xDFFF then
      state.push (Char.ofNat (0x10000 + (first - 0xD800) * 0x400 + (unit - 0xDC00)))
    else { state with unpaired := true, stage := .plain }
  | none =>
    if 0xDC00 ≤ unit ∧ unit ≤ 0xDFFF then { state with unpaired := true, stage := .plain }
    else if 0xD800 ≤ unit ∧ unit ≤ 0xDBFF ∧ ¬ state.unpaired then
      { state with stage := .paired unit }
    else state.push (Char.ofNat unit)

/-- Reads one more glyph of a text; `rest` is the number of octets after it. An escape that has
fewer than four octets left is cut short, whatever they are. -/
def move (state : TextState) (glyph : Glyph) (rest : Nat) : Move :=
  match state.stage with
  | .plain => state.movePlain glyph
  | .escape => state.moveEscape glyph
  | .hex lead count sum =>
    let digit := match glyph with
      | .char c => hexValue? c
      | .stray _ => none
    match digit with
    | none => .wrong (if count + glyph.width + rest < 4 then .truncated else .malformed)
    | some digit =>
      if count = 3 then .more (state.settle lead (sum * 16 + digit))
      else .more { state with stage := .hex lead (count + 1) (sum * 16 + digit) }
  | .paired lead =>
    if glyph = .char '\\' then .more { state with stage := .pairedEscape lead }
    else { state with unpaired := true }.movePlain glyph
  | .pairedEscape lead =>
    if glyph = .char 'u' then .more { state with stage := .hex (some lead) 0 0 }
    else { state with unpaired := true }.moveEscape glyph

/-- The token of a text that breaks off. -/
def broken (state : TextState) (fault : Break) : Token :=
  .broken .text (if state.unpaired then .malformed else fault) fault

end TextState

/-! ### The reader of tokens -/

/-- What is being read. -/
inductive Lexer where
  | between
  | word (token : Token) (expected : List Char)
  | number (state : NumeralState)
  | text (state : TextState)
  | stopped

namespace Lexer

/-- Reads a glyph that begins a token or stands between tokens. -/
def start : Glyph → List Token × Lexer
  | .stray _ => ([.broken .nothing .malformed .malformed], .stopped)
  | .char c =>
    if c = ' ' ∨ c = '\n' ∨ c = '\t' ∨ c = '\r' then ([], .between)
    else if c = '\x7b' then ([.openObject], .between)
    else if c = '\x7d' then ([.closeObject], .between)
    else if c = '[' then ([.openList], .between)
    else if c = ']' then ([.closeList], .between)
    else if c = ',' then ([.comma], .between)
    else if c = ':' then ([.colon], .between)
    else if c = '"' then ([], .text ⟨[], false, .plain⟩)
    else if c = 'n' then ([], .word .null ['u', 'l', 'l'])
    else if c = 't' then ([], .word (.bool true) ['r', 'u', 'e'])
    else if c = 'f' then ([], .word (.bool false) ['a', 'l', 's', 'e'])
    else if c = '-' then ([], .number ⟨⟨true, [], none, none⟩, .sign⟩)
    else if c = '0' then ([], .number ⟨⟨false, ['0'], none, none⟩, .zero⟩)
    else if c.isDigit then ([], .number ⟨⟨false, [c], none, none⟩, .integer⟩)
    else ([.broken .nothing .malformed .malformed], .stopped)

/-- Reads one glyph; `rest` is the number of octets after it. -/
def step (lexer : Lexer) (glyph : Glyph) (rest : Nat) : List Token × Lexer :=
  match lexer with
  | .between => start glyph
  | .word token expected =>
    match expected with
    | [] => ([token], .between)
    | next :: others =>
      if glyph = .char next then
        if others = [] then ([token], .between) else ([], .word token others)
      else ([.broken .scalar .malformed .malformed], .stopped)
  | .number state =>
    let next := match glyph with
      | .char c => state.move c
      | .stray _ => if state.mayEnd then .complete else .wrong
    match next with
    | .more state => ([], .number state)
    | .complete =>
      let (tokens, lexer) := start glyph
      (state.token :: tokens, lexer)
    | .wrong => ([.broken .scalar .malformed .malformed], .stopped)
  | .text state =>
    match state.move glyph rest with
    | .more state => ([], .text state)
    | .complete value => ([.text value], .between)
    | .wrong fault =>
      let unpaired := match state.stage with
        | .paired _ | .pairedEscape _ => true
        | .plain | .escape | .hex _ _ _ => state.unpaired
      ([{ state with unpaired }.broken fault], .stopped)
  | .stopped => ([], .stopped)

/-- Ends the text. -/
def finish : Lexer → List Token
  | .between | .stopped => []
  | .word _ _ => [.broken .scalar .truncated .truncated]
  | .number state =>
    if state.mayEnd then [state.token] else [.broken .scalar .truncated .malformed]
  | .text state => [state.broken .truncated]

/-- The number of octets of glyphs. -/
def width (glyphs : List Glyph) : Nat := glyphs.foldl (fun sum glyph => sum + glyph.width) 0

/-- Reads glyphs from a state on. -/
def run (lexer : Lexer) : List Glyph → List Token
  | [] => lexer.finish
  | glyph :: rest =>
    let (tokens, next) := lexer.step glyph (width (rest.take 4))
    tokens ++ next.run rest

end Lexer

/-- The tokens of a text. -/
def tokens (glyphs : List Glyph) : List Token := Lexer.between.run glyphs

end NodeAgent.Json
