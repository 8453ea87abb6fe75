/-
This file reads settings as what a configuration needs. Settings of the environment have no types,
so a number may be given as a text, a text as a number, and a count as a truth value.
-/

import NodeAgent.Agent
import NodeAgent.Configuration.Setting
import NodeAgent.Decimal.Double

namespace NodeAgent.Setting

/-- Reads a setting as a text. -/
def asText : Setting → Option String
  | text value => some value
  | bool value => some (if value then "true" else "false")
  | whole value => some (toString value)
  | double bits => some (Decimal.plainText bits)
  | missing | list _ | table _ => none

/-- Reads digits with a plus before them or none. -/
def countOfText (word : List Char) : Option Nat :=
  let digits := match word with
    | '+' :: digits => digits
    | digits => digits
  if digits ≠ [] ∧ digits.all Char.isDigit ∧ Json.Numeral.value digits < Word.bound then
    some (Json.Numeral.value digits)
  else none

/-- Reads a setting as a count of 64 bits. -/
def asCount : Setting → Option Nat
  | whole value => if 0 ≤ value then some value.toNat else none
  | double bits => some (Decimal.nearestCount bits)
  | bool value => some (if value then 1 else 0)
  | text value =>
    let word := foldCase value
    if word = "true" ∨ word = "on" ∨ word = "yes" then some 1
    else if word = "false" ∨ word = "off" ∨ word = "no" then some 0
    else countOfText value.toList
  | missing | list _ | table _ => none

/-- Reads a setting as a size. -/
def asSize : Setting → Option Size
  | whole value => some ⟨value⟩
  | text value => Size.read? value
  | missing | bool _ | double _ | list _ | table _ => none

/-- Reads a setting as a policy: its name, or a table with its name as the only key. -/
def asPolicy : Setting → Option RestorePolicy
  | text value => RestorePolicy.ofText? (foldCase value)
  | table [(key, _)] => RestorePolicy.ofText? (foldCase key)
  | missing | bool _ | whole _ | double _ | list _ | table _ => none

/-- The setting that a variable of the environment stands for. -/
def ofVariable (value : String) : Setting :=
  if foldCase value = "true" then bool true
  else if foldCase value = "false" then bool false
  else
    match Size.readWhole? value.toList with
    | some number => whole number
    | none =>
      match variableDouble? value.toList with
      | some bits => double bits
      | none => text value
where
  /-- Reads a double with digits before or after its point, or the name of a special one. -/
  variableDouble? (word : List Char) : Option UInt64 := do
    let (negative, rest) := Toml.signed word
    let name := (String.ofList rest).map Char.toLower
    if name = "inf" ∨ name = "infinity" then some (Decimal.withSign negative Decimal.infinite)
    else if name = "nan" then some (Decimal.withSign negative Decimal.noNumber)
    else
      let (before, fraction, exponent) := Toml.doubleParts rest
      let after := fraction.getD []
      if before ++ after = [] ∨ !(before ++ after).all Char.isDigit then none
      else
        let power ← match exponent with
          | none => some 0
          | some digits =>
            let (below, size) := Toml.signed digits
            if size = [] ∨ !size.all Char.isDigit then none
            else
              let power : Int := Json.Numeral.value size
              some (if below then -power else power)
        some (Decimal.withSign negative
          (Decimal.nearestDouble (Json.Numeral.value (before ++ after)) (power - after.length)))

end NodeAgent.Setting
