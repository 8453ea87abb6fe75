/-
This file reads the numbers of a configuration text. Digits may be grouped by single underscores
between them. A whole number has 64 bits with sign and no needless zeros before it; with a radix
mark it has no sign. A double has a fraction, an exponent or both.
-/

import NodeAgent.Decimal.Double
import NodeAgent.Json.Numeral
import NodeAgent.Text.Blank
import NodeAgent.Toml.Value
import NodeAgent.Word

namespace NodeAgent.Toml

/-- The sign before a number, and what follows it. -/
def signed (word : List Char) : Bool × List Char :=
  match word with
  | '-' :: rest => (true, rest)
  | '+' :: rest => (false, rest)
  | word => (false, word)

/-- The digits of a word that groups them. -/
def grouped? (isDigit : Char → Bool) (word : List Char) : Option (List Char) :=
  let groups := Text.splitAt '_' word
  if groups.all fun group => group ≠ [] && group.all isDigit then some groups.flatten else none

/-- The digits of a whole number without needless zeros. -/
def integerDigits? (word : List Char) : Option (List Char) :=
  (grouped? Char.isDigit word).filter fun digits => digits.length = 1 || digits.head? ≠ some '0'

/-- Reads a decimal whole number. -/
def decimal? (word : List Char) : Option Int := do
  let (negative, rest) := signed word
  let size : Int := Json.Numeral.value (← integerDigits? rest)
  let value := if negative then -size else size
  if Word.isSigned value then some value else none

/-- The value of a digit of any radix up to sixteen. -/
def digitValue (digit : Char) : Nat :=
  if digit.isDigit then digit.toNat - '0'.toNat
  else if digit.isLower then digit.toNat - 'a'.toNat + 10
  else digit.toNat - 'A'.toNat + 10

/-- Whether a character is a hexadecimal digit. -/
def isHexDigit (c : Char) : Bool :=
  c.isDigit || ('a' ≤ c && c ≤ 'f') || ('A' ≤ c && c ≤ 'F')

/-- Reads a whole number of a radix. -/
def inRadix? (radix : Nat) (isDigit : Char → Bool) (word : List Char) : Option Int := do
  let value := (← grouped? isDigit word).foldl (fun sum digit => sum * radix + digitValue digit) 0
  if value < Word.signedBound then some value else none

/-- Reads a whole number. -/
def whole? (word : List Char) : Option Int :=
  match word with
  | '0' :: 'x' :: rest => inRadix? 16 isHexDigit rest
  | '0' :: 'o' :: rest => inRadix? 8 (fun c => '0' ≤ c && c ≤ '7') rest
  | '0' :: 'b' :: rest => inRadix? 2 (fun c => c = '0' || c = '1') rest
  | word => decimal? word

/-- The parts of a written double: what stands before the point, after the point, and after the
mark of the exponent. -/
def doubleParts (word : List Char) : List Char × Option (List Char) × Option (List Char) :=
  let isMark (c : Char) : Bool := c = 'e' || c = 'E'
  let mantissa := word.takeWhile (!isMark ·)
  let exponent := match word.dropWhile (!isMark ·) with
    | [] => none
    | _ :: rest => some rest
  match mantissa.dropWhile (· ≠ '.') with
  | [] => (mantissa, none, exponent)
  | _ :: fraction => (mantissa.takeWhile (· ≠ '.'), some fraction, exponent)

/-- Reads a written exponent; one that is left out is zero. -/
def exponent? : Option (List Char) → Option Int
  | none => some 0
  | some word => do
    let (negative, rest) := signed word
    let size : Int := Json.Numeral.value (← grouped? Char.isDigit rest)
    some (if negative then -size else size)

/-- Reads a double. Only below zero may it be infinite without saying so. -/
def double? (word : List Char) : Option UInt64 := do
  let (negative, rest) := signed word
  if rest = ['i', 'n', 'f'] then some (Decimal.withSign negative Decimal.infinite)
  else if rest = ['n', 'a', 'n'] then some (Decimal.withSign negative Decimal.noNumber)
  else
    let (integral, fraction, exponent) := doubleParts rest
    if fraction.isNone ∧ exponent.isNone then none
    else
      let before ← integerDigits? integral
      let after ← match fraction with
        | none => some []
        | some digits => grouped? Char.isDigit digits
      let power ← exponent? exponent
      let size := Decimal.nearestDouble (Json.Numeral.value (before ++ after))
        (power - after.length)
      if size = Decimal.infinite ∧ ¬ negative then none
      else some (Decimal.withSign negative size)

end NodeAgent.Toml
