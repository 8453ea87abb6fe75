/-
This file reads the dates and times of a configuration text and gives them one written form: a
capital `T` between date and time, a capital `Z` or hours and minutes as the offset, and at most
nine digits of a second without zeros at their end. A date or a time may also stand in a text, under
a key of its own, and is then read less strictly.
-/

import NodeAgent.Json.Numeral
import NodeAgent.Toml.Value

namespace NodeAgent.Toml

/-- How strictly a moment is read: what may stand between date and time, the latest hour of a day,
and the most hours and minutes of an offset. -/
structure MomentRules where
  isMark : Char → Bool
  latestHour : Nat
  offsetHours : Nat
  offsetMinutes : Nat

/-- The number that two digits stand for, where it is in a range. -/
def twoDigits? (lowest highest : Nat) (first second : Char) : Option Nat :=
  let value := Json.Numeral.value [first, second]
  if first.isDigit && second.isDigit && lowest ≤ value && value ≤ highest then some value else none

/-- The number of days of a month. -/
def daysOf (year month : Nat) : Nat :=
  if month = 2 then
    if year % 4 = 0 ∧ (year % 100 ≠ 0 ∨ year % 400 = 0) then 29 else 28
  else if month = 4 ∨ month = 6 ∨ month = 9 ∨ month = 11 then 30
  else 31

/-- Reads a date: its written form and what follows. -/
def date? (word : List Char) : Option (List Char × List Char) :=
  match word with
  | y :: e :: a :: r :: '-' :: m :: n :: '-' :: d :: f :: rest => do
    if [y, e, a, r].any (!·.isDigit) then none
    let month ← twoDigits? 1 12 m n
    let day ← twoDigits? 1 31 d f
    if day ≤ daysOf (Json.Numeral.value [y, e, a, r]) month then
      some ([y, e, a, r, '-', m, n, '-', d, f], rest)
    else none
  | _ => none

/-- The most digits of a second that are kept. -/
def secondDigits : Nat := 9

/-- The written form of the digits of a second. -/
def fractionText (digits : List Char) : List Char :=
  let kept := ((digits.take secondDigits).reverse.dropWhile (· = '0')).reverse
  if kept = [] then [] else '.' :: kept

/-- Reads a time of day: its written form and what follows. A minute may have a leap second. -/
def time? (rules : MomentRules) (word : List Char) : Option (List Char × List Char) :=
  match word with
  | h :: o :: ':' :: m :: i :: ':' :: s :: e :: rest => do
    let _ ← twoDigits? 0 rules.latestHour h o
    let _ ← twoDigits? 0 59 m i
    let _ ← twoDigits? 0 60 s e
    let clock := [h, o, ':', m, i, ':', s, e]
    match rest with
    | '.' :: more =>
      let digits := more.takeWhile Char.isDigit
      if digits = [] then none
      else some (clock ++ fractionText digits, more.dropWhile Char.isDigit)
    | rest => some (clock, rest)
  | _ => none

/-- A number of two digits. -/
def padded (value : Nat) : List Char := [Nat.digitChar (value / 10), Nat.digitChar (value % 10)]

/-- The minutes of a day. -/
def dayMinutes : Nat := 1440

/-- Reads an offset, which is at most a day: its written form. -/
def offset? (rules : MomentRules) (word : List Char) : Option (List Char) :=
  match word with
  | [] => some []
  | ['Z'] | ['z'] => some ['Z']
  | [sign, h, o, ':', m, i] => do
    let hours ← twoDigits? 0 rules.offsetHours h o
    let minutes ← twoDigits? 0 rules.offsetMinutes m i
    let total := hours * 60 + minutes
    if (sign = '+' ∨ sign = '-') ∧ total ≤ dayMinutes then
      some ((if total = 0 then '+' else sign) :: padded (total / 60) ++ ':' :: padded (total % 60))
    else none
  | _ => none

/-- Reads a date, a time, or both with an offset or without: the written form. -/
def momentBy? (rules : MomentRules) (word : List Char) : Option String :=
  match date? word with
  | some (date, []) => some (String.ofList date)
  | some (date, mark :: rest) => do
    if !rules.isMark mark then none
    let (clock, rest) ← time? rules rest
    some (String.ofList (date ++ 'T' :: clock ++ (← offset? rules rest)))
  | none => do
    let (clock, rest) ← time? rules word
    if rest = [] then some (String.ofList clock) else none

/-- A moment that stands for itself. Its date and its time are one word. -/
def wordRules : MomentRules := ⟨fun c => c = 'T' || c = 't', 23, 23, 59⟩

/-- A moment in a text. -/
def textRules : MomentRules := ⟨fun c => wordRules.isMark c || c = ' ', 24, 99, 99⟩

/-- Reads a moment that stands for itself. -/
def moment? (word : List Char) : Option String := momentBy? wordRules word

/-! ### Moments in tables -/

/-- The key of a table that stands for the moment in the text under it. -/
def momentKey : String := "$__toml_private_datetime"

/-- What stands under the key of moments, where that is the first key of a table. -/
def momentIn? : List (String × Toml) → Option Toml
  | (key, value) :: _ => if key = momentKey then some value else none
  | [] => none

/-- The moment in a text. -/
def momentOfText? : Toml → Option String
  | .text words => momentBy? textRules words.toList
  | _ => none

end NodeAgent.Toml
