/-
This file says which number a numeral of a JSON text stands for. Whole numbers of 64 bits are
exact. Any other numeral is a double: as many leading digits as 64 bits hold, as a double, times or
divided by one correctly rounded power of ten. A numeral beyond the largest double has no value.
-/

import NodeAgent.Json.Value
import NodeAgent.Word

namespace NodeAgent.Json

/-- The parts of a numeral: its sign, the digits before and after the point, and the power of ten.
A part that was not written is none. -/
structure Numeral where
  negative : Bool
  integer : List Char
  fraction : Option (List Char)
  exponent : Option (Bool × List Char)
deriving DecidableEq, Inhabited

namespace Numeral

/-- The value of one digit. -/
def digitValue (digit : Char) : Nat := digit.toNat - '0'.toNat

/-- The number that digits stand for. -/
def value (digits : List Char) : Nat :=
  digits.foldl (fun sum digit => sum * 10 + digitValue digit) 0

/-- Appends digits to a number as long as it has 64 bits; with the digits left over. -/
def extend (held : Nat) : List Char → Nat × List Char
  | [] => (held, [])
  | digit :: rest =>
    let longer := held * 10 + digitValue digit
    if longer < Word.bound then extend longer rest else (held, digit :: rest)

/-- `10 ^ power` as a double. -/
def powerOfTen (power : Nat) : Float := Float.ofScientific 1 false power

/-- The largest power of ten that is a double. -/
def greatestPower : Nat := 308

/-- Divides by a power of ten, in steps of the greatest one. -/
def divide : Nat → Float → Nat → Float
  | 0, quotient, _ => quotient
  | steps + 1, quotient, power =>
    if power ≤ greatestPower then quotient / powerOfTen power
    else if quotient == 0 then quotient
    else divide steps (quotient / powerOfTen greatestPower) (power - greatestPower)

/-- A significand times a power of ten; none beyond the largest double. Three steps reach zero
from any significand of 64 bits. -/
def scale? (significand : Nat) (exponent : Int) : Option Float :=
  let factor := (UInt64.ofNat significand).toFloat
  if exponent < 0 then some (divide 4 factor exponent.natAbs)
  else if exponent.toNat ≤ greatestPower then
    let product := factor * powerOfTen exponent.toNat
    if product.isInf then none else some product
  else if significand = 0 then some factor
  else none

/-- The double of a numeral. -/
def double? (numeral : Numeral) : Option Number :=
  let (whole, dropped) := extend 0 numeral.integer
  let fraction := numeral.fraction.getD []
  let (significand, ignored) := extend whole fraction
  let point : Int := (dropped.length : Int) - (fraction.length - ignored.length : Nat)
  let magnitude : Option Float :=
    match numeral.exponent with
    | none => scale? significand point
    | some (below, digits) =>
      let power := value digits
      if 2147483647 < power then
        if significand ≠ 0 ∧ ¬ below then none else some 0
      else scale? significand (if below then point - power else point + power)
  magnitude.map fun size => .double (if numeral.negative then -size else size).toBits

/-- The number of a numeral, where there is one. -/
def number? (numeral : Numeral) : Option Number :=
  match numeral.fraction, numeral.exponent with
  | none, none =>
    let magnitude := value numeral.integer
    if numeral.negative then
      if 0 < magnitude ∧ magnitude ≤ Word.signedBound then some (.whole (-magnitude))
      else numeral.double?
    else if magnitude < Word.bound then some (.whole magnitude)
    else numeral.double?
  | _, _ => numeral.double?

end Numeral

end NodeAgent.Json
