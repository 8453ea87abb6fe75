/-
This file puts instants in order by their texts. The months of the calendar follow each other
without gaps, so of two days the one with the earlier year, month and day has the smaller number.
Where every number of a date and of a time of day is written in as many digits as any other in its
place, the texts come in the order of the instants.
-/

import Mathlib.Order.Monotone.Basic
import Mathlib.Order.SuccPred.Basic
import NodeAgent.Proofs.Moments

namespace NodeAgent

namespace Date

/-! ### Months -/

/-- The number of the first day of a month, where months are counted from the beginning of
year 0. -/
def monthStart (index : Int) : Int := dayNumber ⟨index / 12, (index % 12).toNat + 1, 1⟩

/-- The month of a date, counted likewise. -/
def monthIndex (date : Date) : Int := 12 * date.year + date.month - 1

theorem monthIndex_parts {date : Date} (first : 1 ≤ date.month) (last : date.month ≤ 12) :
    date.monthIndex / 12 = date.year ∧ (date.monthIndex % 12).toNat + 1 = date.month := by
  unfold monthIndex
  omega

/-- A day is counted from the first day of its month. -/
theorem dayNumber_eq_monthStart {date : Date} (first : 1 ≤ date.month) (last : date.month ≤ 12) :
    date.dayNumber = monthStart date.monthIndex + date.day - 1 := by
  obtain ⟨year, month⟩ := monthIndex_parts first last
  unfold monthStart
  rw [year, month]
  unfold dayNumber
  dsimp only
  omega

/-- A day in closed form: the days of the years before, of the months before and of its own. -/
theorem dayNumber_eq {year : Int} {month day : Nat} :
    dayNumber ⟨year, month, day⟩ =
      (if month ≤ 2 then
        365 * (year - 1) + (year - 1) / 4 - (year - 1) / 100 + (year - 1) / 400 +
          (153 * (month + 9) + 2) / 5
      else 365 * year + year / 4 - year / 100 + year / 400 + (153 * (month - 3) + 2) / 5) +
        day - 1 - epochDay := by
  unfold dayNumber
  dsimp only
  rw [Int.fdiv_eq_ediv_of_nonneg _ (by decide)]
  split <;> omega

/-- February is as long as the years say. -/
theorem leap_day (year : Int) :
    (if isLeapYear year then 29 else 28 : Nat) =
      28 + (year / 4 - (year - 1) / 4) - (year / 100 - (year - 1) / 100) +
        (year / 400 - (year - 1) / 400) := by
  unfold isLeapYear
  simp only [Bool.and_eq_true, Bool.or_eq_true, decide_eq_true_eq]
  split <;> omega

/-- A month begins when the days of the one before it are over. -/
theorem monthStart_succ (index : Int) :
    monthStart (index + 1) =
      monthStart index + daysInMonth (index / 12) ((index % 12).toNat + 1) := by
  obtain ⟨month, remainder⟩ : ∃ month : Nat, index % 12 = month := ⟨(index % 12).toNat, by omega⟩
  have small : month < 12 := by omega
  have leap := leap_day (index / 12)
  unfold monthStart daysInMonth
  generalize (if isLeapYear (index / 12) then 29 else 28) = february at leap ⊢
  by_cases last : month = 11
  · have year : (index + 1) / 12 = index / 12 + 1 := by omega
    have first : (index + 1) % 12 = 0 := by omega
    rw [year, first, remainder, last, dayNumber_eq, dayNumber_eq]
    simp
    omega
  · have year : (index + 1) / 12 = index / 12 := by omega
    have next : (index + 1) % 12 = month + 1 := by omega
    rw [year, next, remainder, dayNumber_eq, dayNumber_eq]
    interval_cases month
    all_goals
      simp
      omega

theorem daysInMonth_pos (year : Int) (month : Nat) : 0 < daysInMonth year month := by
  unfold daysInMonth
  split
  · split <;> decide
  · split <;> decide

theorem monthStart_le_monthStart {index later : Int} (order : index ≤ later) :
    monthStart index ≤ monthStart later := by
  refine monotone_int_of_le_succ (fun index => ?_) order
  have days := daysInMonth_pos (index / 12) ((index % 12).toNat + 1)
  rw [monthStart_succ]
  omega

/-! ### Days -/

/-- One date comes before another when its year does, or its month in the same year, or its day in
the same month. -/
def Before (first second : Date) : Prop :=
  first.year < second.year ∨ first.year = second.year ∧
    (first.month < second.month ∨ first.month = second.month ∧ first.day < second.day)

variable {first second : Date}

/-- A day lies between the beginning of its month and that of the next. -/
theorem dayNumber_bounds {date : Date} (valid : date.isValid = true) :
    monthStart date.monthIndex ≤ date.dayNumber ∧
      date.dayNumber < monthStart (date.monthIndex + 1) := by
  obtain ⟨⟨first, last⟩, least, most⟩ := isValid_iff.1 valid
  obtain ⟨year, month⟩ := monthIndex_parts first last
  rw [dayNumber_eq_monthStart first last, monthStart_succ, year, month]
  omega

theorem dayNumber_lt_of_before (valid : first.isValid = true) (later : second.isValid = true)
    (before : first.Before second) : first.dayNumber < second.dayNumber := by
  obtain ⟨months, -⟩ := isValid_iff.1 valid
  obtain ⟨laterMonths, -⟩ := isValid_iff.1 later
  have order : first.monthIndex < second.monthIndex ∨
      first.monthIndex = second.monthIndex ∧ first.day < second.day := by
    unfold monthIndex
    unfold Before at before
    omega
  rcases order with earlier | ⟨same, earlier⟩
  · calc first.dayNumber < monthStart (first.monthIndex + 1) := (dayNumber_bounds valid).2
      _ ≤ monthStart second.monthIndex := monthStart_le_monthStart earlier
      _ ≤ second.dayNumber := (dayNumber_bounds later).1
  · rw [dayNumber_eq_monthStart months.1 months.2,
      dayNumber_eq_monthStart laterMonths.1 laterMonths.2, same]
    omega

theorem eq_iff : first = second ↔
    first.year = second.year ∧ first.month = second.month ∧ first.day = second.day := by
  rcases first with ⟨year, month, day⟩
  rcases second with ⟨otherYear, otherMonth, otherDay⟩
  rw [mk.injEq]

theorem not_before_iff : ¬first.Before second ↔ second.Before first ∨ second = first := by
  rw [eq_iff]
  unfold Before
  omega

/-- Days come in the order of their numbers. -/
theorem dayNumber_lt_iff (valid : first.isValid = true) (later : second.isValid = true) :
    first.dayNumber < second.dayNumber ↔ first.Before second := by
  refine ⟨fun less => ?_, dayNumber_lt_of_before valid later⟩
  by_contra other
  rcases not_before_iff.1 other with after | rfl
  · exact Int.lt_asymm less (dayNumber_lt_of_before later valid after)
  · exact Int.lt_irrefl _ less

end Date

/-! ### Texts -/

/-- Texts that begin with parts of one length are compared by these parts first. -/
theorem Text.append_lt_append_iff {first second third fourth : List Char}
    (same : first.length = second.length) :
    first ++ third < second ++ fourth ↔ first < second ∨ first = second ∧ third < fourth := by
  induction first generalizing second with
  | nil =>
    obtain rfl := List.eq_nil_of_length_eq_zero same.symm
    simp
  | cons c rest inductionHypothesis =>
    obtain ⟨other, others, rfl⟩ := List.exists_cons_of_length_eq_add_one same.symm
    rw [List.cons_append, List.cons_append, List.cons_lt_cons_iff, List.cons_lt_cons_iff,
      inductionHypothesis (Nat.succ.inj same), List.cons.injEq]
    tauto

namespace Instant

variable {width first second : Nat}

/-- The last digit of a number in a width. -/
theorem padded_succ (positive : 0 < width) (count : Nat) :
    padded (width + 1) count = padded width (count / 10) ++ [Nat.digitChar (count % 10)] := by
  unfold padded
  rw [Nat.toDigits_eq_if (by decide) (n := count)]
  split
  · next small =>
    obtain ⟨width, rfl⟩ := Nat.exists_eq_add_one.2 positive
    rw [Nat.div_eq_of_lt small, Nat.mod_eq_of_lt small]
    simp [List.replicate_succ']
  · next large =>
    dsimp only
    rw [List.length_append, List.length_singleton, Nat.add_sub_add_right, List.append_assoc]

theorem padded_inj (same : padded width first = padded width second) : first = second := by
  rw [← numberOf_padded width first, same, numberOf_padded]

/-- In one width texts are in the order of the numbers. -/
theorem padded_lt_padded_iff (positive : 0 < width) (small : first < 10 ^ width)
    (short : second < 10 ^ width) :
    padded width first < padded width second ↔ first < second := by
  induction width, positive using Nat.le_induction generalizing first second with
  | base =>
    have digits : ∀ first < 10, ∀ second < 10,
      (padded 1 first < padded 1 second ↔ first < second) := by decide
    exact digits first small second short
  | succ width positive inductionHypothesis =>
    have digits : ∀ first < 10, ∀ second < 10,
      ([Nat.digitChar first] < [Nat.digitChar second] ↔ first < second) := by decide
    have head : first / 10 < 10 ^ width := by omega
    have otherHead : second / 10 < 10 ^ width := by omega
    have equal : padded width (first / 10) = padded width (second / 10) ↔
        first / 10 = second / 10 := ⟨padded_inj, congrArg _⟩
    rw [padded_succ positive, padded_succ positive, Text.append_lt_append_iff
      ((length_padded positive head).trans (length_padded positive otherHead).symm),
      inductionHypothesis head otherHead, equal,
      digits _ (Nat.mod_lt _ (by decide)) _ (Nat.mod_lt _ (by decide))]
    omega

/-- Texts that begin with numbers in one width are compared by these numbers first. -/
theorem padded_append_lt_iff {third fourth : List Char} (positive : 0 < width)
    (small : first < 10 ^ width) (short : second < 10 ^ width) :
    padded width first ++ third < padded width second ++ fourth ↔
      first < second ∨ first = second ∧ third < fourth := by
  have equal : padded width first = padded width second ↔ first = second :=
    ⟨padded_inj, congrArg _⟩
  rw [Text.append_lt_append_iff
    ((length_padded positive small).trans (length_padded positive short).symm),
    padded_lt_padded_iff positive small short, equal]

/-! ### Instants -/

theorem date_eq_iff {first second : Instant} :
    first.date = second.date ↔ first.date.dayNumber = second.date.dayNumber := by
  refine ⟨congrArg _, fun same => ?_⟩
  unfold date at same ⊢
  rw [Date.dayNumber_ofDayNumber, Date.dayNumber_ofDayNumber] at same
  rw [same]

/-- An instant is in an earlier second when its day is earlier, or its time of the same day. -/
theorem seconds_lt_iff {first second : Instant} :
    first.seconds < second.seconds ↔ first.date.Before second.date ∨
      first.date = second.date ∧ first.secondOfDay < second.secondOfDay := by
  have clock := first.secondOfDay_lt
  have otherClock := second.secondOfDay_lt
  rw [seconds_eq, seconds_eq, date_eq_iff,
    ← Date.dayNumber_lt_iff first.isValid_date second.isValid_date]
  omega

/-- In the years that have four digits the texts of dates and times of day are in the order of the
seconds. -/
theorem text_lt_text_iff {first second : Instant} (separator : Char)
    (inYears : 0 ≤ first.date.year ∧ first.date.year ≤ 9999)
    (otherInYears : 0 ≤ second.date.year ∧ second.date.year ≤ 9999) :
    first.dateText ++ separator :: first.clockText <
        second.dateText ++ separator :: second.clockText ↔
      first.seconds < second.seconds := by
  obtain ⟨months, -, -⟩ := Date.isValid_iff.1 first.isValid_date
  obtain ⟨otherMonths, -, -⟩ := Date.isValid_iff.1 second.isValid_date
  have day := Date.day_le_of_isValid first.isValid_date
  have otherDay := Date.day_le_of_isValid second.isValid_date
  have clock := first.secondOfDay_lt
  have otherClock := second.secondOfDay_lt
  have seconds : padded 2 (first.secondOfDay % 60) < padded 2 (second.secondOfDay % 60) ↔
      first.secondOfDay % 60 < second.secondOfDay % 60 :=
    padded_lt_padded_iff (by decide) (by omega) (by omega)
  rw [seconds_lt_iff]
  unfold dateText clockText yearText Date.Before
  dsimp only
  rw [if_pos inYears, if_pos otherInYears, Date.eq_iff]
  simp only [List.append_assoc, List.cons_append]
  rw [padded_append_lt_iff (by decide) (by omega) (by omega), List.cons_lt_cons_self,
    padded_append_lt_iff (by decide) (by omega) (by omega), List.cons_lt_cons_self,
    padded_append_lt_iff (by decide) (by omega) (by omega), List.cons_lt_cons_self,
    padded_append_lt_iff (by decide) (by omega) (by omega), List.cons_lt_cons_self,
    padded_append_lt_iff (by decide) (by omega) (by omega), List.cons_lt_cons_self, seconds]
  omega

end Instant

end NodeAgent
