/-
This file reads instants back. The calendar counts its days without gaps, so a day is found again
from its year, month and day; and of what is written of an instant in the years that have four
digits each part is read as it was, up to the last nanosecond.
-/

import Mathlib.Tactic.IntervalCases
import NodeAgent.Proofs.Digits

namespace NodeAgent

namespace Date

/-! ### The calendar -/

/-- The years of a cycle begin in the order of their days: where `quarter` and `century` count the
days in their 1460 and 36524, a day is in its year, and only a leap year has 366 days. -/
theorem year_bounds {day year quarter century : Int} (first : 0 ≤ century) (last : century ≤ 3)
    (after : 36524 * century ≤ day) (before : day < 36524 * century + 36524)
    (quarterAfter : 1460 * quarter ≤ day) (quarterBefore : day < 1460 * quarter + 1460)
    (yearAfter : 365 * year ≤ day - quarter + century)
    (yearBefore : day - quarter + century < 365 * year + 365) :
    0 ≤ year ∧ year ≤ 399 ∧ 0 ≤ day - (365 * year + year / 4 - year / 100) ∧
      day - (365 * year + year / 4 - year / 100) ≤ 365 ∧
      (day - (365 * year + year / 4 - year / 100) = 365 →
        year % 4 = 3 ∧ (year % 100 ≠ 99 ∨ year % 400 = 399)) := by
  have centuries : year / 100 = century := by omega
  have least : year / 4 ≤ quarter := by omega
  have most : quarter ≤ year / 4 + 1 := by omega
  refine ⟨by omega, by omega, by omega, by omega, fun leap => ?_⟩
  have remainder : year % 4 = 0 ∨ year % 4 = 1 ∨ year % 4 = 2 ∨ year % 4 = 3 := by omega
  have third : year % 4 = 3 := by omega
  refine ⟨third, ?_⟩
  by_cases ninth : year % 100 = 99
  · exact Or.inr (by omega)
  · exact Or.inl ninth

/-- The year that a day of a cycle is in. -/
def yearOfCycle (day : Int) : Int := (day - day / 1460 + day / 36524 - day / 146096) / 365

/-- The days of a cycle before a year. -/
def daysBefore (year : Int) : Int := 365 * year + year / 4 - year / 100

/-- A day of a cycle is in its year, and only a leap year has 366 days. -/
theorem yearOfCycle_bounds {day : Int} (lower : 0 ≤ day) (upper : day ≤ 146096) :
    0 ≤ yearOfCycle day ∧ yearOfCycle day ≤ 399 ∧
      0 ≤ day - daysBefore (yearOfCycle day) ∧ day - daysBefore (yearOfCycle day) ≤ 365 ∧
      (day - daysBefore (yearOfCycle day) = 365 → yearOfCycle day % 4 = 3 ∧
        (yearOfCycle day % 100 ≠ 99 ∨ yearOfCycle day % 400 = 399)) := by
  rcases Int.lt_or_eq_of_le upper with inside | rfl
  · have cycle : day / 146096 = 0 := by omega
    unfold daysBefore yearOfCycle
    rw [cycle]
    generalize quarters : day / 1460 = quarter
    generalize centuries : day / 36524 = century
    generalize years : (day - quarter + century - 0) / 365 = year
    have after : 36524 * century ≤ day := by omega
    have quarterAfter : 1460 * quarter ≤ day := by omega
    exact year_bounds (by omega) (by omega) after (by omega) quarterAfter (by omega) (by omega)
      (by omega)
  · decide

/-- The last day of each month of a year that begins in March. -/
theorem month_bounds {day month : Int} (lower : 0 ≤ day) (upper : day ≤ 365)
    (same : month = (5 * day + 2) / 153) :
    0 ≤ month ∧ month ≤ 11 ∧ 0 ≤ day - (153 * month + 2) / 5 ∧
      day - (153 * month + 2) / 5 ≤
        if month = 11 then if day = 365 then 28 else 27
        else if month = 1 ∨ month = 3 ∨ month = 6 ∨ month = 8 then 29 else 30 := by
  have least : 0 ≤ month := by omega
  have most : month ≤ 11 := by omega
  refine ⟨least, most, by omega, ?_⟩
  interval_cases month
  all_goals
    simp only [Int.reduceEq, if_true, if_false, or_self, or_true, true_or]
    omega

/-- The day of a year that begins in March. -/
def ofMarchDay (year day : Int) : Date :=
  let month := (5 * day + 2) / 153
  let number := day - (153 * month + 2) / 5 + 1
  if month < 10 then ⟨year, (month + 3).toNat, number.toNat⟩
  else ⟨year + 1, (month - 9).toNat, number.toNat⟩

/-- A day is found in a cycle and in a year of it. -/
theorem ofDayNumber_spec (days : Int) :
    ∃ cycle year day : Int, days + epochDay = cycle * 146097 + daysBefore year + day ∧
      (0 ≤ year ∧ year ≤ 399) ∧ (0 ≤ day ∧ day ≤ 365) ∧
      (day = 365 → year % 4 = 3 ∧ (year % 100 ≠ 99 ∨ year % 400 = 399)) ∧
      ofDayNumber days = ofMarchDay (year + cycle * 400) day := by
  have floor : (days + epochDay).fdiv 146097 = (days + epochDay) / 146097 :=
    Int.fdiv_eq_ediv_of_nonneg _ (by decide)
  let inCycle := days + epochDay - (days + epochDay).fdiv 146097 * 146097
  have lower : 0 ≤ inCycle := by omega
  have upper : inCycle ≤ 146096 := by omega
  obtain ⟨least, most, dayLeast, dayMost, leap⟩ := yearOfCycle_bounds lower upper
  refine ⟨(days + epochDay).fdiv 146097, yearOfCycle inCycle,
    inCycle - daysBefore (yearOfCycle inCycle), by omega, ⟨least, most⟩, ⟨dayLeast, dayMost⟩,
    leap, ?_⟩
  have months : ∀ (month year : Int) (number : Nat), 0 ≤ month → month ≤ 11 →
      (⟨if (if month < 10 then month + 3 else month - 9) ≤ 2 then year + 1 else year,
        (if month < 10 then month + 3 else month - 9).toNat, number⟩ : Date) =
      if month < 10 then ⟨year, (month + 3).toNat, number⟩
      else ⟨year + 1, (month - 9).toNat, number⟩ := by
    intro month year number first last
    split
    · next early => rw [if_neg (by omega)]
    · next late => rw [if_pos (by omega)]
  exact months _ _ _ (month_bounds dayLeast dayMost rfl).1 (month_bounds dayLeast dayMost rfl).2.1

/-- Such a day is counted from the days before its year. -/
theorem dayNumber_ofMarchDay {cycle year day : Int} (yearBounds : 0 ≤ year ∧ year ≤ 399)
    (dayBounds : 0 ≤ day ∧ day ≤ 365) :
    (ofMarchDay (year + cycle * 400) day).dayNumber =
      cycle * 146097 + daysBefore year + day - epochDay := by
  obtain ⟨first, last, least, -⟩ := month_bounds dayBounds.1 dayBounds.2 rfl
  have floor : (year + cycle * 400).fdiv 400 = cycle := by
    rw [Int.fdiv_eq_ediv_of_nonneg _ (by decide)]
    omega
  unfold ofMarchDay dayNumber daysBefore
  generalize (5 * day + 2) / 153 = month at *
  dsimp only
  split
  · next early =>
    have month : ¬(month + 3).toNat ≤ 2 := by omega
    simp only [month, if_false, floor]
    omega
  · next late =>
    have month : (month - 9).toNat ≤ 2 := by omega
    simp only [month, if_true, Int.add_sub_cancel, floor]
    omega

theorem dayNumber_ofDayNumber (days : Int) : (ofDayNumber days).dayNumber = days := by
  obtain ⟨cycle, year, day, same, yearBounds, dayBounds, -, found⟩ := ofDayNumber_spec days
  rw [found, dayNumber_ofMarchDay yearBounds dayBounds]
  omega

/-- The year after one that begins in March and has 366 days is a leap year. -/
theorem isLeapYear_of_march {cycle year : Int}
    (leap : year % 4 = 3 ∧ (year % 100 ≠ 99 ∨ year % 400 = 399)) :
    isLeapYear (year + cycle * 400 + 1) = true := by
  unfold isLeapYear
  simp only [Bool.and_eq_true, Bool.or_eq_true, decide_eq_true_eq]
  omega

theorem isValid_iff {date : Date} : date.isValid = true ↔
    (1 ≤ date.month ∧ date.month ≤ 12) ∧ 1 ≤ date.day ∧
      date.day ≤ daysInMonth date.year date.month := by
  unfold isValid
  simp only [Bool.and_eq_true, decide_eq_true_eq, and_assoc]

theorem day_le_of_isValid {date : Date} (valid : date.isValid = true) : date.day ≤ 31 := by
  refine Nat.le_trans (isValid_iff.1 valid).2.2 ?_
  unfold daysInMonth
  split
  · split <;> decide
  · split <;> decide

/-- From March to December a month has the same days in each year. -/
theorem isValid_of_early {year month number : Int} (first : 0 ≤ month) (early : month < 10)
    (least : 0 ≤ number)
    (most : number ≤ if month = 1 ∨ month = 3 ∨ month = 6 ∨ month = 8 then 29 else 30) :
    isValid ⟨year, (month + 3).toNat, (number + 1).toNat⟩ = true := by
  rw [isValid_iff]
  unfold daysInMonth
  dsimp only
  rw [if_neg (by omega)]
  split at most
  · rw [if_pos (by omega)]
    omega
  · rw [if_neg (by omega)]
    omega

/-- January has the same days in each year, and February has one more in a leap year. -/
theorem isValid_of_late {year month number : Int} (late : 10 ≤ month) (last : month ≤ 11)
    (least : 0 ≤ number) (most : number ≤ if month = 11 then 28 else 30)
    (leap : month = 11 → number = 28 → isLeapYear year = true) :
    isValid ⟨year, (month - 9).toNat, (number + 1).toNat⟩ = true := by
  rw [isValid_iff]
  unfold daysInMonth
  dsimp only
  split at most
  · next february =>
    rw [if_pos (by omega)]
    by_cases lastDay : number = 28
    · rw [if_pos (leap february lastDay)]
      omega
    · split <;> omega
  · next january =>
    rw [if_neg (by omega), if_neg (by omega)]
    omega

/-- Every day that is counted is a day of the calendar. -/
theorem isValid_ofDayNumber (days : Int) : (ofDayNumber days).isValid = true := by
  obtain ⟨cycle, year, day, -, yearBounds, dayBounds, leap, found⟩ := ofDayNumber_spec days
  obtain ⟨first, last, least, most⟩ := month_bounds dayBounds.1 dayBounds.2 rfl
  rw [found]
  unfold ofMarchDay
  dsimp only
  split
  · next early =>
    rw [if_neg (by omega)] at most
    exact isValid_of_early first early least most
  · next late =>
    refine isValid_of_late (by omega) last least ?_ fun february number => ?_
    · split at most
      · next february =>
        rw [if_pos february]
        split at most <;> omega
      · next january =>
        rw [if_neg january]
        rw [if_neg (by omega)] at most
        exact most
    · rw [if_pos february] at most
      refine isLeapYear_of_march (leap ?_)
      by_contra shorter
      rw [if_neg shorter] at most
      omega

example : ofDayNumber 19782 = ⟨2024, 2, 29⟩ := by decide

end Date

namespace Instant

/-! ### The parts of an instant -/

theorem fraction_lt (instant : Instant) : instant.fraction < 1000000000 :=
  (Int.toNat_lt (Int.fmod_nonneg_of_pos _ (by decide))).2 (Int.fmod_lt_of_pos _ (by decide))

theorem secondOfDay_lt (instant : Instant) : instant.secondOfDay < 86400 :=
  (Int.toNat_lt (Int.fmod_nonneg_of_pos _ (by decide))).2 (Int.fmod_lt_of_pos _ (by decide))

theorem isValid_date (instant : Instant) : instant.date.isValid = true :=
  Date.isValid_ofDayNumber _

/-- The seconds of an instant are those of the days before and those of its own day. -/
theorem seconds_eq (instant : Instant) :
    instant.seconds = instant.date.dayNumber * 86400 + instant.secondOfDay := by
  have clock : (instant.secondOfDay : Int) = instant.seconds.fmod 86400 :=
    Int.toNat_of_nonneg (Int.fmod_nonneg_of_pos _ (by decide))
  unfold date
  rw [Date.dayNumber_ofDayNumber, clock, Int.mul_comm, Int.mul_fdiv_add_fmod]

/-- An instant is its day, its second of the day and its fraction of that. -/
theorem ofUnix_parts (instant : Instant) :
    ofUnix (instant.date.dayNumber * 86400 + instant.secondOfDay) instant.fraction = instant := by
  have fraction : (instant.fraction : Int) = instant.nanoseconds.fmod second :=
    Int.toNat_of_nonneg (Int.fmod_nonneg_of_pos _ (by decide))
  rw [← seconds_eq]
  unfold ofUnix
  rw [fraction]
  exact congrArg mk ((congrArg (· + _) (Int.mul_comm _ _)).trans (Int.mul_fdiv_add_fmod _ _))

/-! ### Reading -/

namespace Scan

variable {First Second : Type} {text rest : List Char} {value : First}

theorem isBlank_eq_false_of_isDigit {c : Char} (digit : c.isDigit = true) :
    Text.isBlank c = false := by
  simp only [Char.isDigit, ge_iff_le, Bool.and_eq_true, decide_eq_true_eq, UInt32.le_iff_toNat_le]
    at digit
  have least : 48 ≤ c.toNat := digit.1
  have most : c.toNat ≤ 57 := digit.2
  unfold Text.isBlank
  rw [List.any_eq_false]
  intro range member inside
  simp only [Bool.and_eq_true, decide_eq_true_eq] at inside
  have apart : ∀ range ∈ Text.blankRanges, range.2 < 48 ∨ 57 < range.1 := by decide
  have := apart range member
  omega

/-- A step goes on with what the one before it left. -/
theorem run_bind_of {first : Scan First} {next : First → Scan Second}
    (read : first.run text = .ok (value, rest)) :
    (first >>= next).run text = (next value).run rest := by
  rw [StateT.run_bind, read]
  rfl

theorem run_blanks {c : Char} (visible : Text.isBlank c = false) (rest : List Char) :
    blanks.run (c :: rest) = .ok ((), c :: rest) := by
  show Except.ok ((), List.dropWhile Text.isBlank (c :: rest)) = _
  rw [List.dropWhile_cons_of_neg (by rw [visible]; decide)]

theorem run_mark (c : Char) (rest : List Char) : (mark c).run (c :: rest) = .ok ((), rest) := by
  show (if c = c then (set rest : Scan Unit) else throw .invalid).run (c :: rest) = _
  rw [if_pos rfl]
  rfl

/-- A number ends at its width or before what is no digit. -/
theorem run_digits {count : Nat} (all : ∀ c ∈ text, c.isDigit = true) (nonempty : text ≠ [])
    (width : text.length ≤ count)
    (ends : text.length = count ∨ rest.takeWhile Char.isDigit = [])
    (small : numberOf text < Word.signedBound) :
    (digits (some count)).run (text ++ rest) = .ok (text, rest) := by
  have found : ((text ++ rest).take count).takeWhile Char.isDigit = text := by
    have short : (rest.take (count - text.length)).takeWhile Char.isDigit = [] := by
      rcases ends with full | ends
      · rw [full, Nat.sub_self]
        rfl
      · rw [← List.take_takeWhile, ends, List.take_nil]
    rw [List.take_append, List.take_of_length_le width, List.takeWhile_append_of_pos all, short,
      List.append_nil]
  unfold digits
  refine (run_bind_of rfl).trans ?_
  dsimp only
  rw [found, if_neg (List.append_ne_nil_of_left_ne_nil nonempty _), if_neg nonempty,
    if_neg (Nat.not_le.2 small), List.drop_left]
  rfl

theorem run_digits_padded (width : Nat) {limit count : Nat} (positive : 0 < width)
    (short : count < 10 ^ width) (room : width ≤ limit) (limited : limit ≤ 9)
    (ends : width = limit ∨ rest.takeWhile Char.isDigit = []) :
    (digits (some limit)).run (padded width count ++ rest) = .ok (padded width count, rest) := by
  have length := length_padded positive short
  refine run_digits (fun c => isDigit_of_mem_padded) (List.ne_nil_of_length_pos ?_) ?_ ?_ ?_
  · rwa [length]
  · rwa [length]
  · rwa [length]
  · rw [numberOf_padded]
    calc count < 10 ^ width := short
      _ ≤ 10 ^ 9 := Nat.pow_le_pow_right (by decide) (Nat.le_trans room limited)
      _ < Word.signedBound := by decide

/-- What begins with a number begins with a digit. -/
theorem exists_padded (width : Nat) {count : Nat} (positive : 0 < width)
    (short : count < 10 ^ width) :
    ∃ first others, padded width count = first :: others ∧ first.isDigit = true := by
  have length := length_padded positive short
  have all : ∀ c ∈ padded width count, c.isDigit = true := fun c => isDigit_of_mem_padded
  cases digits : padded width count with
  | nil =>
    rw [digits] at length
    exact absurd length.symm (Nat.ne_of_gt positive)
  | cons first others => exact ⟨first, others, rfl, all first (digits ▸ List.mem_cons_self)⟩

theorem run_blanks_padded {width count : Nat} (positive : 0 < width) (short : count < 10 ^ width) :
    blanks.run (padded width count ++ rest) = .ok ((), padded width count ++ rest) := by
  obtain ⟨first, others, digits, digit⟩ := exists_padded _ positive short
  rw [digits]
  exact run_blanks (isBlank_eq_false_of_isDigit digit) _

/-- A number of a date or of a time of day. -/
theorem run_field {lowest highest count : Nat} (least : lowest ≤ count) (most : count ≤ highest)
    (short : count < 100) (rest : List Char) :
    (field lowest highest).run (padded 2 count ++ rest) = .ok (count, rest) := by
  unfold field
  refine (run_bind_of (run_blanks_padded (by decide) short)).trans ?_
  refine (run_bind_of (run_digits_padded 2 (by decide) short (by decide) (by decide)
    (Or.inl rfl))).trans ?_
  rw [numberOf_padded, if_neg (by omega)]
  rfl

/-- A year of four digits. -/
theorem run_year {count : Nat} (short : count < 10000) (rest : List Char) :
    year.run (padded 4 count ++ rest) = .ok ((count : Int), rest) := by
  obtain ⟨first, others, shape, digit⟩ := exists_padded 4 (by decide) short
  have digits : (Scan.digits (some 4)).run (padded 4 count ++ rest) = _ :=
    run_digits_padded 4 (by decide) short (by decide) (by decide) (Or.inl rfl)
  have number := numberOf_padded 4 count
  unfold year
  refine (run_bind_of (run_blanks_padded (by decide) short)).trans ?_
  refine (run_bind_of rfl).trans ?_
  rw [shape] at digits number ⊢
  dsimp only
  -- No digit is a sign.
  split
  · next same =>
    cases same
    exact absurd digit (by decide)
  · next same =>
    cases same
    exact absurd digit (by decide)
  · refine (run_bind_of digits).trans ?_
    rw [number, pure_bind, if_neg (by omega)]
    rfl

/-- A fraction of at most nine digits counts in nanoseconds. -/
theorem run_fraction_padded (width : Nat) {count : Nat} (positive : 0 < width)
    (short : count < 10 ^ width) (room : width ≤ 9) (ends : rest.takeWhile Char.isDigit = []) :
    fraction.run ('.' :: padded width count ++ rest) = .ok (count * 10 ^ (9 - width), rest) := by
  have nothing : rest.dropWhile Char.isDigit = rest := by
    have whole := List.takeWhile_append_dropWhile (p := Char.isDigit) (l := rest)
    rwa [ends] at whole
  unfold fraction
  refine (run_bind_of rfl).trans ?_
  refine (run_bind_of rfl).trans ?_
  refine (run_bind_of (run_digits_padded width positive short room (by decide)
    (Or.inr ends))).trans ?_
  refine (run_bind_of (show StateT.run _ _ = Except.ok ((), rest.dropWhile Char.isDigit) from
    rfl)).trans ?_
  rw [nothing, numberOf_padded, length_padded positive short]
  rfl

/-- A fraction is written with as many digits as it needs, before what is no digit and no point. -/
theorem run_fraction {instant : Instant} (ends : rest.takeWhile Char.isDigit = [])
    (pointless : rest.head? ≠ some '.') :
    fraction.run (instant.fractionText ++ rest) = .ok (instant.fraction, rest) := by
  have small := instant.fraction_lt
  unfold fractionText
  dsimp only
  split
  · next zero =>
    rw [zero]
    cases rest with
    | nil => rfl
    | cons c rest =>
      unfold fraction
      refine (run_bind_of rfl).trans ?_
      split
      · next same =>
        cases same
        exact absurd rfl pointless
      · rfl
  · split
    · next milli =>
      rw [run_fraction_padded 3 (by decide) (by omega) (by decide) ends]
      exact congrArg (fun count => Except.ok (count, rest)) (by omega)
    · split
      · next micro =>
        rw [run_fraction_padded 6 (by decide) (by omega) (by decide) ends]
        exact congrArg (fun count => Except.ok (count, rest)) (by omega)
      · rw [run_fraction_padded 9 (by decide) (by omega) (by decide) ends]
        exact congrArg (fun count => Except.ok (count, rest)) (by omega)

end Scan

/-- The parts of an instant make it up. -/
theorem assemble_parts {instant : Instant} (first : firstYear ≤ instant.date.year)
    (last : instant.date.year ≤ lastYear) :
    assemble instant.date (instant.secondOfDay / 3600) (instant.secondOfDay / 60 % 60)
      (instant.secondOfDay % 60) instant.fraction 0 = .ok instant := by
  have clock : instant.date.dayNumber * 86400 + (instant.secondOfDay / 3600 : Nat) * 3600 +
      (instant.secondOfDay / 60 % 60 : Nat) * 60 + (instant.secondOfDay % 60 : Nat) - 0 =
        instant.date.dayNumber * 86400 + instant.secondOfDay := by omega
  have inRange : ¬(instant.date.year < firstYear ∨ lastYear < instant.date.year) := by omega
  have onCalendar : ¬(instant.date.year < firstYear ∨ lastYear < instant.date.year ∨
      (!instant.date.isValid) = true) := by
    rw [isValid_date, ← or_assoc]
    exact not_or_intro inRange (by decide)
  unfold assemble
  rw [if_neg onCalendar, if_neg (by decide)]
  dsimp only
  rw [clock, ofUnix_parts, if_neg inRange]

/-- What may stand after the second for universal time: it is read as the zone and nothing before
it is read as a part of the second. -/
structure Scan.IsUniversal (zone : List Char) : Prop where
  digitless : zone.takeWhile Char.isDigit = []
  pointless : zone.head? ≠ some '.'
  visible : Scan.blanks.run zone = .ok ((), zone)
  read : Scan.zone.run zone = .ok (0, [])

/-- An instant in a year of four digits is read back from its date and its time of day, to the
nanosecond, whichever mark is between them. -/
theorem read_ofList {instant : Instant} {separator : Char} {zone : List Char}
    (first : 0 ≤ instant.date.year) (last : instant.date.year ≤ 9999)
    (between : separator = 'T' ∨ separator = ' ') (universal : Scan.IsUniversal zone) :
    read (String.ofList (instant.dateText ++ separator :: instant.clockText ++
      instant.fractionText ++ zone)) = .ok instant := by
  obtain ⟨⟨monthLeast, monthMost⟩, dayLeast, -⟩ := Date.isValid_iff.1 instant.isValid_date
  have dayMost := Date.day_le_of_isValid instant.isValid_date
  have clock := instant.secondOfDay_lt
  have assembled : assemble ⟨instant.date.year.natAbs, instant.date.month, instant.date.day⟩
      (instant.secondOfDay / 3600) (instant.secondOfDay / 60 % 60) (instant.secondOfDay % 60)
      instant.fraction 0 = .ok instant := by
    rw [Int.natAbs_of_nonneg first]
    exact assemble_parts (Int.le_trans (by decide) first) (Int.le_trans last (by decide))
  have scanned : scan.run (instant.dateText ++ separator :: instant.clockText ++
      instant.fractionText ++ zone) = .ok (instant, []) := by
    have inYears : 0 ≤ instant.date.year ∧ instant.date.year ≤ 9999 := ⟨first, last⟩
    unfold dateText clockText yearText
    dsimp only
    rw [if_pos inYears]
    simp only [List.append_assoc, List.cons_append]
    unfold scan
    refine (Scan.run_bind_of (Scan.run_year (by omega) _)).trans ?_
    refine (Scan.run_bind_of (Scan.run_blanks (by decide) _)).trans ?_
    refine (Scan.run_bind_of (Scan.run_mark _ _)).trans ?_
    refine (Scan.run_bind_of (Scan.run_field monthLeast monthMost (by omega) _)).trans ?_
    refine (Scan.run_bind_of (Scan.run_blanks (by decide) _)).trans ?_
    refine (Scan.run_bind_of (Scan.run_mark _ _)).trans ?_
    refine (Scan.run_bind_of (Scan.run_field dayLeast dayMost (by omega) _)).trans ?_
    refine (Scan.run_bind_of rfl).trans ?_
    -- Either mark is passed over, and from there on the text is the same.
    rcases between with rfl | rfl
    all_goals
      refine (Scan.run_bind_of rfl).trans ?_
      refine (Scan.run_bind_of (Scan.run_field (by omega) (by omega) (by omega) _)).trans ?_
      refine (Scan.run_bind_of (Scan.run_blanks (by decide) _)).trans ?_
      refine (Scan.run_bind_of (Scan.run_mark _ _)).trans ?_
      refine (Scan.run_bind_of (Scan.run_field (by omega) (by omega) (by omega) _)).trans ?_
      refine (Scan.run_bind_of (Scan.run_blanks (by decide) _)).trans ?_
      refine (Scan.run_bind_of (Scan.run_mark _ _)).trans ?_
      refine (Scan.run_bind_of (Scan.run_field (by omega) (by omega) (by omega) _)).trans ?_
      refine (Scan.run_bind_of (Scan.run_fraction universal.digitless universal.pointless)).trans ?_
      refine (Scan.run_bind_of universal.visible).trans ?_
      refine (Scan.run_bind_of universal.read).trans ?_
      refine (Scan.run_bind_of (show Scan.blanks.run [] = .ok ((), []) from rfl)).trans ?_
      refine (Scan.run_bind_of rfl).trans ?_
      exact congrArg (fun result : Except Fault Instant =>
        StateT.run (liftM result : Scan Instant) []) assembled
  unfold read
  rw [String.toList_ofList]
  exact congrArg (Except.map Prod.fst) scanned

theorem Scan.isUniversal_letter : Scan.IsUniversal ['Z'] :=
  ⟨rfl, by decide, rfl, rfl⟩

theorem Scan.isUniversal_distance : Scan.IsUniversal "+00:00".toList :=
  ⟨rfl, by decide, rfl, rfl⟩

/-- An instant in a year of four digits is read back from its text inside JSON. -/
theorem read_wireText {instant : Instant} (first : 0 ≤ instant.date.year)
    (last : instant.date.year ≤ 9999) : read instant.wireText = .ok instant :=
  read_ofList first last (.inl rfl) Scan.isUniversal_letter

/-- An instant in a year of four digits is read back from its text in a message. -/
theorem read_displayText {instant : Instant} (first : 0 ≤ instant.date.year)
    (last : instant.date.year ≤ 9999) : read instant.displayText = .ok instant :=
  read_ofList first last (.inl rfl) Scan.isUniversal_distance

end Instant

end NodeAgent
