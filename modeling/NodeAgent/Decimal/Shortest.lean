/-
This file finds the shortest decimal that reads back as a given double. A double stands for all
reals that round to it; the shortest decimal is the one with the fewest digits among those reals,
and of several the nearest to the double itself.
-/

import NodeAgent.Decimal.Nearest

namespace NodeAgent.Decimal

/-- A finite positive double as `mantissa * 2 ^ exponent`. `narrow` says that the next smaller
double is only half as far away as the next larger one. -/
structure Binary where
  mantissa : Nat
  exponent : Int
  narrow : Bool

/-- Digits and the power of ten of the last digit. -/
structure Digits where
  digits : Nat
  exponent : Int
deriving DecidableEq, Inhabited

/-- The bit above the stored bits of a mantissa. -/
def hiddenBit : Nat := 0x10000000000000

/-- The magnitude of a double of the given bit pattern; none for zero, infinities and NaN. -/
def Binary.ofBits? (bits : UInt64) : Option Binary :=
  let fraction := bits.toNat % hiddenBit
  let field := bits.toNat / hiddenBit % 2048
  if field = 2047 then none
  else if field = 0 then
    if fraction = 0 then none else some ⟨fraction, -1074, false⟩
  else some ⟨hiddenBit + fraction, (field : Int) - 1075, fraction = 0 ∧ 1 < field⟩

/-- `value * base ^ exponent` as a quotient. -/
def scaled (value base : Nat) (exponent : Int) : Nat × Nat :=
  if 0 ≤ exponent then (value * Nat.pow base exponent.toNat, 1)
  else (value, Nat.pow base (-exponent).toNat)

/-- The number of decimal digits. -/
def digitCount (value : Nat) : Nat := (Nat.toDigits 10 value).length

/-- The power of ten of the leading digit of a positive quotient. -/
def leadingExponent (numerator denominator : Nat) : Int :=
  if denominator ≤ numerator then (digitCount (numerator / denominator) : Int) - 1
  else -(digitCount ((denominator - 1) / numerator) : Int)

namespace Binary

/-- The magnitude as a quotient. -/
def quotient (value : Binary) : Nat × Nat := scaled value.mantissa 2 value.exponent

/-- Whether a decimal reads back as the double: it lies within half a step on its side, and a
decimal exactly half a step away goes to the double with the even mantissa. -/
def holds (value : Binary) (decimal : Digits) : Bool :=
  let (quarter, one) := scaled 1 2 (value.exponent - 2)
  let (tens, ones) := scaled decimal.digits 10 decimal.exponent
  let low := (4 * value.mantissa - if value.narrow then 1 else 2) * quarter * ones
  let high := (4 * value.mantissa + 2) * quarter * ones
  let middle := tens * one
  if value.mantissa % 2 = 0 then decide (low ≤ middle ∧ middle ≤ high)
  else decide (low < middle ∧ middle < high)

/-- The decimals next to the double, below and above, on the grid of a power of ten, with the
nearer one first. -/
def neighbours (value : Binary) (exponent : Int) : List Digits :=
  let (numerator, denominator) := value.quotient
  let (tens, ones) := scaled 1 10 exponent
  let above := numerator * ones
  let below := denominator * tens
  let floor := above / below
  if roundDiv above below = floor then [⟨floor, exponent⟩, ⟨floor + 1, exponent⟩]
  else [⟨floor + 1, exponent⟩, ⟨floor, exponent⟩]

/-- The first decimal that reads back, over grids that get finer by one digit at a time. -/
def search (value : Binary) (leading : Int) : Nat → Nat → Option Digits
  | _, 0 => none
  | count, steps + 1 =>
    match (value.neighbours (leading - count)).find? value.holds with
    | some found => some found
    | none => search value leading (count + 1) steps

end Binary

/-- The digits without the zeros at their end. -/
def Digits.trimmed (decimal : Digits) : Digits :=
  let kept := ((Nat.toDigits 10 decimal.digits).reverse.dropWhile (· = '0')).reverse
  ⟨decimal.digits / Nat.pow 10 (digitCount decimal.digits - kept.length),
    decimal.exponent + (digitCount decimal.digits - kept.length)⟩

/-- The shortest decimal that reads back as the double. Seventeen digits always suffice. -/
def shortest (value : Binary) : Digits :=
  let (numerator, denominator) := value.quotient
  let leading := leadingExponent numerator denominator
  match value.search leading 0 17 with
  | some found => found.trimmed
  | none => ⟨0, 0⟩

end NodeAgent.Decimal
