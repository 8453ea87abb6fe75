/-
This file rounds quotients to the nearest whole number, a half going to the even neighbour, and
writes what such a rounding leaves: a whole number held to a few significant bits, and a quotient
with two decimal places.
-/

namespace NodeAgent.Decimal

/-- The whole number nearest to a quotient; a half goes to the even neighbour. -/
def roundDiv (numerator denominator : Nat) : Nat :=
  let floor := numerator / denominator
  let rest := 2 * (numerator % denominator)
  if rest < denominator then floor
  else if denominator < rest then floor + 1
  else if floor % 2 = 0 then floor
  else floor + 1

/-- A number held to as many leading bits as given, rounded to the nearest such number. -/
def holdBits (bits value : Nat) : Nat :=
  let surplus := Nat.pow 2 ((value.log2 + 1) - bits)
  roundDiv value surplus * surplus

/-- A quotient with two decimal places. -/
def twoPlaces (numerator denominator : Nat) : String :=
  let hundredths := roundDiv (numerator * 100) denominator
  let places := hundredths % 100
  s!"{hundredths / 100}." ++ (if places < 10 then "0" else "") ++ toString places

end NodeAgent.Decimal
