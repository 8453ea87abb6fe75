/-
This file defines instants: points in time, counted in nanoseconds from the beginning of 1970 in
universal time. An instant is shown in the calendar, with just as many digits after the second as
it needs.
-/

import NodeAgent.Time.Calendar

namespace NodeAgent

/-- A point in time. -/
structure Instant where
  nanoseconds : Int
deriving DecidableEq, Inhabited

namespace Instant

/-- The number of nanoseconds of a second. -/
def second : Int := 1000000000

/-- The point a number of seconds and nanoseconds after the beginning of 1970. -/
def ofUnix (seconds nanoseconds : Int) : Instant := ⟨seconds * second + nanoseconds⟩

/-- The whole seconds since the beginning of 1970, rounded down. -/
def seconds (instant : Instant) : Int := instant.nanoseconds.fdiv second

/-- The nanoseconds since the last whole second. -/
def fraction (instant : Instant) : Nat := (instant.nanoseconds.fmod second).toNat

/-- The last whole second that is not after the instant. -/
def wholeSecond (instant : Instant) : Instant := ofUnix instant.seconds 0

/-- The time between two instants in whole milliseconds, rounded down. -/
def distance (first second : Instant) : Nat :=
  (first.nanoseconds - second.nanoseconds).natAbs / 1000000

/-! ### Text -/

/-- A number with zeros before it, up to a width. -/
def padded (width value : Nat) : List Char :=
  let digits := Nat.toDigits 10 value
  List.replicate (width - digits.length) '0' ++ digits

/-- A year with at least four digits; a sign stands before years outside 0 to 9999. -/
def yearText (year : Int) : List Char :=
  if 0 ≤ year ∧ year ≤ 9999 then padded 4 year.natAbs
  else (if year < 0 then '-' else '+') :: padded 4 year.natAbs

/-- The day of the calendar. -/
def date (instant : Instant) : Date := .ofDayNumber (instant.seconds.fdiv 86400)

/-- The seconds since midnight. -/
def secondOfDay (instant : Instant) : Nat := (instant.seconds.fmod 86400).toNat

/-- The day, as year, month and day. -/
def dateText (instant : Instant) : List Char :=
  let date := instant.date
  yearText date.year ++ '-' :: padded 2 date.month ++ '-' :: padded 2 date.day

/-- The time of day, as hour, minute and second. -/
def clockText (instant : Instant) : List Char :=
  let second := instant.secondOfDay
  padded 2 (second / 3600) ++ ':' :: padded 2 (second / 60 % 60) ++ ':' :: padded 2 (second % 60)

/-- The part after the second: nothing, or three, six or nine digits, as few as lose nothing. -/
def fractionText (instant : Instant) : List Char :=
  let fraction := instant.fraction
  if fraction = 0 then []
  else if fraction % 1000000 = 0 then '.' :: padded 3 (fraction / 1000000)
  else if fraction % 1000 = 0 then '.' :: padded 6 (fraction / 1000)
  else '.' :: padded 9 fraction

/-- The instant in universal time, with the given mark of the zone. -/
def textWithZone (zone : String) (instant : Instant) : String :=
  String.ofList (instant.dateText ++ 'T' :: instant.clockText ++ instant.fractionText ++
    zone.toList)

/-- The text of an instant inside JSON. -/
def wireText (instant : Instant) : String := instant.textWithZone "Z"

/-- The text of an instant in a message. -/
def displayText (instant : Instant) : String := instant.textWithZone "+00:00"

end Instant

end NodeAgent
