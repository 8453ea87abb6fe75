/-
This file bounds whole numbers of 64 bits, with and without one bit for the sign.
-/

namespace NodeAgent.Word

/-- The first number that needs more than 64 bits. -/
def bound : Nat := 0x10000000000000000

/-- The first number that needs more than 64 bits where one is for the sign. -/
def signedBound : Nat := 0x8000000000000000

/-- Whether a number has 64 bits with one of them for the sign. -/
def isSigned (value : Int) : Bool := -(signedBound : Int) ≤ value && value < signedBound

end NodeAgent.Word
