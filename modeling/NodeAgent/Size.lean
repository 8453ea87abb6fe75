/-
This file defines sizes in bytes, as the volume tools report and take them: `1073741824B`. A size
is a whole number of 64 bits with sign. Reading allows for blanks and quotes around a size and for
a missing unit; writing always has the unit.
-/

import NodeAgent.Decimal.Nearest
import NodeAgent.Json.Decoder
import NodeAgent.Text.Blank
import NodeAgent.Word

namespace NodeAgent

/-- A number of bytes. -/
structure Size where
  bytes : Int
deriving DecidableEq, Inhabited

namespace Size

/-- A number of gibibytes. -/
def gibibytes (count : Int) : Size := ⟨count * 1024 * 1024 * 1024⟩

/-- The size as the tools take it. -/
def text (size : Size) : String := toString size.bytes ++ "B"

instance : ToString Size := ⟨text⟩

/-- Reads digits with a sign before them or none. -/
def readWhole? (digits : List Char) : Option Int :=
  let (negative, digits) : Bool × List Char :=
    match digits with
    | '-' :: rest => (true, rest)
    | '+' :: rest => (false, rest)
    | digits => (false, digits)
  if digits ≠ [] ∧ digits.all Char.isDigit then
    let magnitude : Int := Json.Numeral.value digits
    let value := if negative then -magnitude else magnitude
    if Word.isSigned value then some value else none
  else none

/-- Reads a size. -/
def read? (text : String) : Option Size :=
  let bare := Text.trimBy (· = '"') (Text.trimBy Text.isBlank text.toList)
  let digits := if bare.getLast? = some 'B' then bare.dropLast else bare
  (readWhole? digits).map Size.mk

/-! ### Sizes for people -/

/-- The units from bytes upwards, each 1024 times the one before. -/
def units : List String := ["B", "KB", "MB", "GB", "TB", "PB"]

/-- The unit, of those given, in which a number is below 1024, or else the last of them, with the
bytes of that unit. -/
def unitFor (bytes scale : Nat) : List String → String × Nat
  | [] => ("", scale)
  | [last] => (last, scale)
  | unit :: larger =>
    if bytes < 1024 * scale then (unit, scale) else unitFor bytes (scale * 1024) larger

/-- A number of bytes with two places in a fitting unit. Only 53 bits of it count. -/
def readable (bytes : Int) : String :=
  let held := Decimal.holdBits 53 bytes.natAbs
  let (unit, scale) := unitFor held 1 units
  (if bytes < 0 then "-" else "") ++ Decimal.twoPlaces held scale ++ " " ++ unit

/-! ### JSON -/

/-- A size inside JSON is its number of bytes. -/
def toJson (size : Size) : Json := .whole size.bytes

/-- Reads a size written as a number or as a text. -/
def decoder : Json.Decoder Size := fun _ part =>
  match part with
  | .number (.ok (.whole value)) =>
    if value < Word.signedBound then .ok ⟨value⟩ else .error (.rejected (.sizeTooLarge value))
  | .text (.ok text) =>
    match read? text with
    | some size => .ok size
    | none => .error (.rejected (.badSize text))
  | part => Json.unexpected part "a byte count as integer or \"<n>B\" string"

end Size

end NodeAgent
