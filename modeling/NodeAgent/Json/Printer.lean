/-
This file writes JSON values without any blanks: members in the order they are held, texts with
the escapes of the format, whole numbers in decimal and doubles as the shortest decimal that reads
back.
-/

import NodeAgent.Decimal.Shortest
import NodeAgent.Json.Value
import NodeAgent.Word

namespace NodeAgent.Json

/-! ### Doubles -/

/-- How doubles are laid out: the leading exponents that are written without an exponent. -/
structure DoubleLayout where
  lowest : Int
  highest : Int

/-- A double is written positionally from `0.00001` to below `1e+16`. -/
def layout : DoubleLayout := ⟨-5, 15⟩

/-- Digits with a point so that the first of them has the given power of ten. -/
def positional (digits : List Char) (leading : Int) : List Char :=
  if leading < 0 then
    ['0', '.'] ++ List.replicate (-leading - 1).toNat '0' ++ digits
  else
    let before := leading.toNat + 1
    let after := digits.drop before
    digits.take before ++ List.replicate (before - digits.length) '0' ++ ['.'] ++
      (if after = [] then ['0'] else after)

/-- Digits with a written exponent, which always has a sign. -/
def exponential (digits : List Char) (leading : Int) : List Char :=
  let point := if digits.length = 1 then [] else ['.']
  digits.take 1 ++ point ++ digits.drop 1 ++ ['e', if leading < 0 then '-' else '+'] ++
    Nat.toDigits 10 leading.natAbs

/-- The text of a finite double. -/
def doubleText (bits : UInt64) : List Char :=
  let sign := if bits.toNat < Word.signedBound then [] else ['-']
  match Decimal.Binary.ofBits? bits with
  | none => sign ++ ['0', '.', '0']
  | some value =>
    let decimal := Decimal.shortest value
    let digits := Nat.toDigits 10 decimal.digits
    let leading := decimal.exponent + digits.length - 1
    if layout.lowest ≤ leading ∧ leading ≤ layout.highest then sign ++ positional digits leading
    else sign ++ exponential digits leading

/-- The text of a number. -/
def Number.text : Number → List Char
  | .whole value => (toString value).toList
  | .double bits => doubleText bits

/-! ### Texts -/

/-- The written form of one character between quotes. -/
def escaped (c : Char) : List Char :=
  if c = '"' then ['\\', '"']
  else if c = '\\' then ['\\', '\\']
  else if c = '\n' then ['\\', 'n']
  else if c = '\r' then ['\\', 'r']
  else if c = '\t' then ['\\', 't']
  else if c.toNat = 0x08 then ['\\', 'b']
  else if c.toNat = 0x0C then ['\\', 'f']
  else if c.toNat < 0x20 then
    ['\\', 'u', '0', '0'] ++ [Nat.digitChar (c.toNat / 16), Nat.digitChar (c.toNat % 16)]
  else [c]

/-- A text between double quotes. -/
def quotedText (words : String) : List Char :=
  '"' :: words.toList.flatMap escaped ++ ['"']

/-! ### Values -/

/-- Parts with commas between them. -/
def commaSeparated (parts : List (List Char)) : List Char := List.intercalate [','] parts

mutual

/-- The characters of a value. -/
def render : Json → List Char
  | .null => "null".toList
  | .bool true => "true".toList
  | .bool false => "false".toList
  | .number value => value.text
  | .text words => quotedText words
  | .list items => '[' :: commaSeparated (renderItems items) ++ [']']
  | .object members => '\x7b' :: commaSeparated (renderMembers members) ++ ['\x7d']

/-- The characters of each item. -/
def renderItems : List Json → List (List Char)
  | [] => []
  | item :: rest => item.render :: renderItems rest

/-- The characters of each member. -/
def renderMembers : List (String × Json) → List (List Char)
  | [] => []
  | (key, value) :: rest => (quotedText key ++ ':' :: value.render) :: renderMembers rest

end

/-- The text of a value. -/
def print (value : Json) : String := String.ofList value.render

end NodeAgent.Json
