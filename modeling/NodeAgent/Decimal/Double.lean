/-
This file turns decimals into doubles and doubles into decimals without an exponent, and rounds
doubles to whole numbers. A decimal becomes the nearest double; one that is too large becomes
infinite.
-/

import NodeAgent.Decimal.Shortest
import NodeAgent.Word

namespace NodeAgent.Decimal

/-- The bit pattern of a double that is no number. -/
def noNumber : UInt64 := 0x7FF8000000000000

/-- The bit pattern of the infinite double. -/
def infinite : UInt64 := 0x7FF0000000000000

/-- A bit pattern with the sign set where it is negative. -/
def withSign (negative : Bool) (magnitude : UInt64) : UInt64 :=
  if negative then magnitude ||| 0x8000000000000000 else magnitude

/-- Whether the sign of a bit pattern is set. -/
def isNegative (bits : UInt64) : Bool := Word.signedBound ≤ bits.toNat

/-- The bit pattern without its sign. -/
def magnitude (bits : UInt64) : UInt64 := bits &&& 0x7FFFFFFFFFFFFFFF

/-- The bit pattern of the double nearest to `digits * 10 ^ exponent`. Decimals far out of the
range of doubles are not computed. -/
def nearestDouble (digits : Nat) (exponent : Int) : UInt64 :=
  let leading := (digitCount digits : Int) + exponent
  if digits = 0 ∨ leading < -330 then 0
  else if 310 < leading then infinite
  else (Float.ofScientific digits (exponent < 0) exponent.natAbs).toBits

/-- A decimal without an exponent. -/
def Digits.plain (decimal : Digits) : List Char :=
  let digits := Nat.toDigits 10 decimal.digits
  if 0 ≤ decimal.exponent then digits ++ List.replicate decimal.exponent.toNat '0'
  else
    let places := decimal.exponent.natAbs
    let padded := List.replicate (places + 1 - digits.length) '0' ++ digits
    padded.take (padded.length - places) ++ '.' :: padded.drop (padded.length - places)

/-- The shortest decimal of a double, without an exponent. -/
def plainText (bits : UInt64) : String :=
  let size := magnitude bits
  if infinite < size then "NaN"
  else
    let sign := if isNegative bits then "-" else ""
    if size = infinite then sign ++ "inf"
    else
      match Binary.ofBits? size with
      | none => sign ++ "0"
      | some value => sign ++ String.ofList (shortest value).plain

/-- The whole number of 64 bits without sign that is nearest to a double, a half going up. What lies
outside of their range goes to its end, and no number goes to zero. -/
def nearestCount (bits : UInt64) : Nat :=
  let size := magnitude bits
  if infinite < size ∨ isNegative bits then 0
  else if size = infinite then Word.bound - 1
  else
    match Binary.ofBits? size with
    | none => 0
    | some value =>
      let (numerator, denominator) := value.quotient
      min ((2 * numerator + denominator) / (2 * denominator)) (Word.bound - 1)

end NodeAgent.Decimal
