/-
This file says what decimal digits are worth. A number is written without leading zeros, and reading
its digits gives it back; zeros before the digits, up to a width, do not change what they are worth.
-/

import Mathlib.Algebra.Group.Nat.Defs
import NodeAgent.Json.Numeral
import NodeAgent.Time.Reader

namespace NodeAgent

namespace Json.Numeral

/-- Reading goes on with what the digits before were worth. -/
theorem value_append (first second : List Char) :
    value (first ++ second) =
      second.foldl (fun sum digit => sum * 10 + digitValue digit) (value first) :=
  List.foldl_append

theorem value_toDigits (count : Nat) : value (Nat.toDigits 10 count) = count := by
  have step : (fun sum digit => sum * 10 + digitValue digit) =
      fun (sum : Nat) (digit : Char) => 10 * sum + (digit.toNat - '0'.toNat) := by
    funext sum digit
    rw [Nat.mul_comm]
    rfl
  unfold value
  rw [step]
  exact Nat.ofDigitChars_ten_toDigits

theorem value_replicate_zero (zeros : Nat) : value (List.replicate zeros '0') = 0 := by
  induction zeros with
  | zero => rfl
  | succ zeros inductionHypothesis =>
    rw [List.replicate_succ', value_append, inductionHypothesis]
    rfl

/-- Only zero is written with a zero in front. -/
theorem exists_toDigits_of_pos {count : Nat} (positive : 0 < count) :
    ∃ first rest, Nat.toDigits 10 count = first :: rest ∧ first ≠ '0' ∧ first.isDigit = true := by
  induction count using Nat.strongRecOn with
  | ind count inductionHypothesis =>
    rw [Nat.toDigits_eq_if (by decide)]
    split
    · next small =>
      have digits : ∀ digit < 10, 0 < digit →
          Nat.digitChar digit ≠ '0' ∧ (Nat.digitChar digit).isDigit = true := by decide
      exact ⟨_, [], rfl, digits count small positive⟩
    · next large =>
      obtain ⟨first, rest, digits, nonzero⟩ :=
        inductionHypothesis (count / 10) (by omega) (by omega)
      exact ⟨first, _, by rw [digits, List.cons_append], nonzero⟩

end Json.Numeral

/-! ### Widths -/

namespace Instant

variable {width count : Nat}

theorem isDigit_of_mem_padded {c : Char} (member : c ∈ padded width count) : c.isDigit = true := by
  rcases List.mem_append.1 member with zero | digit
  · rw [List.eq_of_mem_replicate zero]
    decide
  · exact Nat.isDigit_of_mem_toDigits (by decide) (by decide) digit

theorem length_padded (positive : 0 < width) (small : count < 10 ^ width) :
    (padded width count).length = width := by
  have short := (Nat.length_toDigits_le_iff (by decide) positive).2 small
  unfold padded
  rw [List.length_append, List.length_replicate]
  omega

/-- Zeros before the digits do not count. -/
theorem numberOf_padded (width count : Nat) : Scan.numberOf (padded width count) = count := by
  have worth := Json.Numeral.value_append (List.replicate (width - (Nat.toDigits 10 count).length)
    '0') (Nat.toDigits 10 count)
  rw [Json.Numeral.value_replicate_zero] at worth
  exact worth.trans (Json.Numeral.value_toDigits count)

end Instant

end NodeAgent
