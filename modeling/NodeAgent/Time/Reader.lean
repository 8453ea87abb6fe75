/-
This file reads instants from text: a date, a time of day and the distance of the zone from
universal time. Blanks may stand between the parts, a number may have fewer digits than usual, and
the zone may be `Z`, `UTC` or hours and minutes. Of several faults the first in reading order is
reported; that a day is not in the calendar shows only when everything is read.
-/

import NodeAgent.Text.Blank
import NodeAgent.Time.Instant
import NodeAgent.Word

namespace NodeAgent.Instant

/-- Why a text is no instant. -/
inductive Fault where
  | outOfRange
  | impossible
  | invalid
  | tooShort
  | tooLong
deriving DecidableEq

/-- The wording of a fault. -/
def Fault.message : Fault → String
  | outOfRange => "input is out of range"
  | impossible => "no possible date and time matching input"
  | invalid => "input contains invalid characters"
  | tooShort => "premature end of input"
  | tooLong => "trailing input"

/-- A step of reading: it takes characters off the front of the text or finds a fault. -/
abbrev Scan (Result : Type) := StateT (List Char) (Except Fault) Result

namespace Scan

/-- Passes over blanks. -/
def blanks : Scan Unit := modify (List.dropWhile Text.isBlank)

/-- Passes over one given character. -/
def mark (expected : Char) : Scan Unit := do
  match ← get with
  | [] => throw .tooShort
  | c :: rest => if c = expected then set rest else throw .invalid

/-- The number that digits stand for. -/
def numberOf (digits : List Char) : Nat :=
  digits.foldl (fun value digit => value * 10 + (digit.toNat - '0'.toNat)) 0

/-- Reads digits, at least one and at most as many as given; without a limit, numbers beyond 63
bits are out of range. -/
def digits (limit : Option Nat) : Scan (List Char) := do
  let text ← get
  let room := match limit with
    | some count => text.take count
    | none => text
  let found := room.takeWhile Char.isDigit
  if text = [] then throw .tooShort
  if found = [] then throw .invalid
  if Word.signedBound ≤ numberOf found then throw .outOfRange
  set (text.drop found.length)
  pure found

/-- Reads a number of at most two digits that lies in a range, with blanks before it. -/
def field (lowest highest : Nat) : Scan Nat := do
  blanks
  let value := numberOf (← digits (some 2))
  if value < lowest ∨ highest < value then throw .outOfRange
  pure value

/-- Reads a year: up to four digits, or a sign and any number of digits. -/
def year : Scan Int := do
  blanks
  let value : Int ← match ← get with
    | '-' :: rest => do set rest; pure (-(numberOf (← digits none) : Int))
    | '+' :: rest => do set rest; pure (numberOf (← digits none) : Int)
    | _ => do pure (numberOf (← digits (some 4)) : Int)
  if value < -2147483648 ∨ 2147483647 < value then throw .outOfRange
  pure value

/-- Reads a fraction of a second in nanoseconds, where a point begins one; digits after the ninth
do not count. -/
def fraction : Scan Nat := do
  match ← get with
  | '.' :: rest =>
    set rest
    let found ← digits (some 9)
    modify (List.dropWhile Char.isDigit)
    pure (numberOf found * Nat.pow 10 (9 - found.length))
  | _ => pure 0

/-- Whether fewer than two octets are left. -/
def nearEnd : List Char → Bool
  | [] => true
  | [c] => c.utf8Size < 2
  | _ => false

/-- Reads the distance from universal time in seconds: a sign, two digits of hours, blanks and
colons, and two digits of minutes. -/
def offset : Scan Int := do
  let sign : Int ← match ← get with
    | '+' :: rest => do set rest; pure 1
    | '-' :: rest | '\u2212' :: rest => do set rest; pure (-1)
    | _ :: _ => throw .invalid
    | [] => throw .tooShort
  if nearEnd (← get) then throw .tooShort
  let hours ← match ← get with
    | tens :: ones :: rest =>
      if tens.isDigit ∧ ones.isDigit then do set rest; pure (numberOf [tens, ones])
      else throw .invalid
    | _ => throw .invalid
  modify (List.dropWhile fun c => c = ':' || Text.isBlank c)
  if nearEnd (← get) then throw .tooShort
  let minutes ← match ← get with
    | tens :: ones :: rest =>
      if tens.isDigit ∧ ones.isDigit then do
        if '6' ≤ tens then throw .outOfRange
        set rest
        pure (numberOf [tens, ones])
      else throw .invalid
    | _ => throw .invalid
  pure (sign * (hours * 3600 + minutes * 60))

/-- Reads the zone: `Z`, `UTC` in any case, or a distance. -/
def zone : Scan Int := do
  match ← get with
  | 'Z' :: rest | 'z' :: rest => do set rest; pure 0
  | u :: t :: c :: rest =>
    if [u.toLower, t.toLower, c.toLower] = ['u', 't', 'c'] then do set rest; pure 0 else offset
  | _ => offset

end Scan

/-- The earliest and the latest year of an instant. -/
def firstYear : Int := -262143

/-- The latest year of an instant. -/
def lastYear : Int := 262142

/-- The instant of a date, a time of day and a distance from universal time. -/
def assemble (date : Date) (hour minute second fraction : Nat) (offset : Int) :
    Except Fault Instant :=
  if date.year < firstYear ∨ lastYear < date.year ∨ !date.isValid then .error .outOfRange
  else if offset ≤ -86400 ∨ 86400 ≤ offset then .error .outOfRange
  else
    let clock := date.dayNumber * 86400 + hour * 3600 + minute * 60 + second
    let result := ofUnix (clock - offset) fraction
    if result.date.year < firstYear ∨ lastYear < result.date.year then .error .impossible
    else .ok result

/-- Reads everything up to the end of the zone. -/
def scan : Scan Instant := do
  let year ← Scan.year
  Scan.blanks
  Scan.mark '-'
  let month ← Scan.field 1 12
  Scan.blanks
  Scan.mark '-'
  let day ← Scan.field 1 31
  match ← get with
  | 't' :: rest | 'T' :: rest | ' ' :: rest => set rest
  | _ :: _ => throw .invalid
  | [] => throw .tooShort
  let hour ← Scan.field 0 23
  Scan.blanks
  Scan.mark ':'
  let minute ← Scan.field 0 59
  Scan.blanks
  Scan.mark ':'
  let second ← Scan.field 0 60
  let fraction ← Scan.fraction
  Scan.blanks
  let offset ← Scan.zone
  Scan.blanks
  if (← get) ≠ [] then throw .tooLong
  assemble ⟨year, month, day⟩ hour minute second fraction offset

/-- Reads an instant. -/
def read (text : String) : Except Fault Instant := (scan.run text.toList).map Prod.fst

end NodeAgent.Instant
