import ModulatorHealth.Timestamp
import Mathlib.Tactic.IntervalCases
import Mathlib.Tactic.Linarith

/-! Days of the proleptic Gregorian calendar. An era of 400 years falls into centuries, cycles of four
years, and years, each of them with a leap day at its end or none; the date of a day is read off
these parts, and the number of a date is the day. -/
namespace ModulatorHealth.Timestamp

/-- The parts of a day of an era: century, cycle in it, year in that, and day in that, which is
the 366th only at the end of a leap year. -/
structure DayParts (c q y d : Int) : Prop where
  century : 0 ≤ c ∧ c ≤ 3
  cycle : 0 ≤ q ∧ q ≤ 24
  year : 0 ≤ y ∧ y ≤ 3
  day : 0 ≤ d ∧ d ≤ 365
  leap : d = 365 → y = 3 ∧ (q < 24 ∨ c = 3)

theorem exists_dayParts {e : Int} (nonneg : 0 ≤ e) (lt : e < 146097) :
    ∃ c q y d, DayParts c q y d ∧ e = 36524 * c + 1461 * q + 365 * y + d := by
  obtain ⟨c, r, split, c0, c3, r0, r1, last⟩ : ∃ c r : Int, e = 36524 * c + r ∧ 0 ≤ c ∧ c ≤ 3 ∧
      0 ≤ r ∧ r ≤ 36524 ∧ (r = 36524 → c = 3) := by
    by_cases h : e = 146096
    · exact ⟨3, 36524, by omega⟩
    · exact ⟨e / 36524, e % 36524, by omega⟩
  obtain ⟨y, d, split', y0, y3, d0, d1, last'⟩ : ∃ y d : Int, r % 1461 = 365 * y + d ∧ 0 ≤ y ∧
      y ≤ 3 ∧ 0 ≤ d ∧ d ≤ 365 ∧ (d = 365 → y = 3) := by
    by_cases h : r % 1461 = 1460
    · exact ⟨3, 365, by omega⟩
    · exact ⟨r % 1461 / 365, r % 1461 % 365, by omega⟩
  exact ⟨c, r / 1461, y, d,
    ⟨⟨c0, c3⟩, by omega, ⟨y0, y3⟩, ⟨d0, d1⟩, fun h => ⟨last' h, by omega⟩⟩, by omega⟩

section Parts

variable {c q y d : Int} (parts : DayParts c q y d)
include parts

theorem DayParts.yearOfEra_eq :
    let e := 36524 * c + 1461 * q + 365 * y + d
    (e - e / 1460 + e / 36524 - e / 146096) / 365 = 100 * c + 4 * q + y := by
  obtain ⟨hc, hq, hy, hd, leap⟩ := parts
  intro e
  have centuries : e / 36524 - e / 146096 = c := by
    by_cases whole : e = 146096
    · omega
    · have short : 1461 * q + 365 * y + d < 36524 := by omega
      have upper : e / 36524 = c := by omega
      have lower : e / 146096 = 0 := by omega
      omega
  have leapDays : e / 1460 = 25 * c + q + (if 1460 ≤ 24 * c + q + 365 * y + d then 1 else 0) := by
    split <;> omega
  omega

theorem DayParts.lt_era : 0 ≤ 36524 * c + 1461 * q + 365 * y + d ∧
    36524 * c + 1461 * q + 365 * y + d < 146097 := by
  obtain ⟨hc, hq, hy, hd, leap⟩ := parts
  omega

theorem DayParts.daysBefore_eq :
    let year := 100 * c + 4 * q + y
    365 * year + year / 4 - year / 100 = 36524 * c + 1461 * q + 365 * y := by
  obtain ⟨hc, hq, hy, hd, leap⟩ := parts
  intro year
  have fours : year / 4 = 25 * c + q := by omega
  have hundreds : year / 100 = c := by omega
  omega

end Parts

theorem month_bounds {d : Int} (nonneg : 0 ≤ d) (le : d ≤ 365) :
    0 ≤ (5 * d + 2) / 153 ∧ (5 * d + 2) / 153 ≤ 11 ∧
      (153 * ((5 * d + 2) / 153) + 2) / 5 ≤ d := by
  omega

theorem civil_eq (era : Int) {c q y d : Int} (parts : DayParts c q y d) :
    let month := (5 * d + 2) / 153
    civil (era * 146097 + (36524 * c + 1461 * q + 365 * y + d) - 719468) =
      (100 * c + 4 * q + y + era * 400 + (if month < 10 then 0 else 1),
        (if month < 10 then month + 3 else month - 9).toNat,
        (d - (153 * month + 2) / 5 + 1).toNat) := by
  intro month
  have eras : ∀ e : Int, 0 ≤ e → e < 146097 → (era * 146097 + e) / 146097 = era := by omega
  let e := 36524 * c + 1461 * q + 365 * y + d
  have inside := eras e parts.lt_era.1 parts.lt_era.2
  have shifted : era * 146097 + e - 719468 + 719468 = era * 146097 + e := Int.sub_add_cancel _ _
  have inEra : era * 146097 + e - era * 146097 = e := add_sub_cancel_left _ _
  have yearOfEra : (e - e / 1460 + e / 36524 - e / 146096) / 365 = 100 * c + 4 * q + y :=
    parts.yearOfEra_eq
  have before := parts.daysBefore_eq
  have dayOfYear : e - (36524 * c + 1461 * q + 365 * y) = d := add_sub_cancel_left _ _
  have bounds := month_bounds parts.day.1 parts.day.2
  change civil (era * 146097 + e - 719468) = _
  unfold civil
  simp (disch := decide) only [Int.fdiv_eq_ediv_of_nonneg, shifted, inside, inEra, yearOfEra]
  simp only [before, dayOfYear]
  change 0 ≤ month ∧ month ≤ 11 ∧ _ at bounds
  change (_ + (if (if month < 10 then month + 3 else month - 9) ≤ 2 then 1 else 0), _, _) = _
  by_cases spring : month < 10
  · have later : ¬ month + 3 ≤ 2 := by omega
    rw [if_pos spring, if_neg later, if_pos spring]
  · have early : month - 9 ≤ 2 := by omega
    rw [if_neg spring, if_pos early, if_neg spring]

theorem exists_parts (n : Int) : ∃ era c q y d, DayParts c q y d ∧
    n = era * 146097 + (36524 * c + 1461 * q + 365 * y + d) - 719468 := by
  obtain ⟨c, q, y, d, parts, split⟩ := exists_dayParts
    (Int.emod_nonneg (n + 719468) (by decide : (146097 : Int) ≠ 0))
    (Int.emod_lt_of_pos (n + 719468) (by decide))
  exact ⟨(n + 719468) / 146097, c, q, y, d, parts, by omega⟩

/-- The number of a date, by the parts of its day. Its year is counted from March. -/
theorem dayNumber_eq (era : Int) {yearOfEra month day : Int} (year : 0 ≤ yearOfEra ∧ yearOfEra < 400)
    (inYear : 0 ≤ month ∧ month ≤ 11) (inMonth : 0 ≤ day) :
    dayNumber (yearOfEra + era * 400 + (if month < 10 then 0 else 1))
        (if month < 10 then month + 3 else month - 9).toNat day.toNat =
      era * 146097 + yearOfEra * 365 + yearOfEra / 4 - yearOfEra / 100 +
        ((153 * month + 2) / 5 + day - 1) - 719468 := by
  have eras : (yearOfEra + era * 400) / 400 = era := by omega
  have inEra : yearOfEra + era * 400 - era * 400 = yearOfEra := add_sub_cancel_right _ _
  unfold dayNumber
  simp (disch := decide) only [Int.fdiv_eq_ediv_of_nonneg]
  by_cases spring : month < 10
  · have later : ¬ (month + 3).toNat ≤ 2 := by omega
    have fromMarch : ((month + 3).toNat + 9 : Int) % 12 = month := by omega
    simp only [spring, if_true, later, if_false, Int.add_zero, eras, inEra, fromMarch,
      Int.toNat_of_nonneg inMonth]
  · have early : (month - 9).toNat ≤ 2 := by omega
    have fromMarch : ((month - 9).toNat + 9 : Int) % 12 = month := by omega
    simp only [spring, if_false, early, if_true, add_sub_cancel_right, eras, inEra, fromMarch,
      Int.toNat_of_nonneg inMonth]

theorem dayNumber_civil (n : Int) : dayNumber (civil n).1 (civil n).2.1 (civil n).2.2 = n := by
  obtain ⟨era, c, q, y, d, parts, rfl⟩ := exists_parts n
  have before := parts.daysBefore_eq
  have bounds := month_bounds parts.day.1 parts.day.2
  have year : 0 ≤ 100 * c + 4 * q + y ∧ 100 * c + 4 * q + y < 400 := by
    obtain ⟨hc, hq, hy, -, -⟩ := parts
    omega
  rw [civil_eq era parts]
  dsimp only at before ⊢
  rw [dayNumber_eq era year ⟨bounds.1, bounds.2.1⟩ (by omega)]
  linarith

theorem DayParts.isLeapYear {c q y d : Int} (parts : DayParts c q y d) (era : Int) (last : d = 365) :
    isLeapYear (100 * c + 4 * q + y + era * 400 + 1) = true := by
  obtain ⟨rfl, fits⟩ := parts.leap last
  obtain ⟨hc, hq, -, -, -⟩ := parts
  have fours : (100 * c + 4 * q + 3 + era * 400 + 1) % 4 = 0 := by omega
  have hundreds : (100 * c + 4 * q + 3 + era * 400 + 1) % 100 ≠ 0 ∨
      (100 * c + 4 * q + 3 + era * 400 + 1) % 400 = 0 := by omega
  simpa [Timestamp.isLeapYear, fours] using hundreds

/-- A date has a month and a day of that month. By cases on the month: only the last one of the year,
February, ends differently in leap years. -/
theorem civil_bounds (n : Int) :
    1 ≤ (civil n).2.1 ∧ (civil n).2.1 ≤ 12 ∧ 1 ≤ (civil n).2.2 ∧
      (civil n).2.2 ≤ daysInMonth (civil n).1 (civil n).2.1 := by
  obtain ⟨era, c, q, y, d, parts, rfl⟩ := exists_parts n
  have leap := parts.isLeapYear era
  have day := parts.day
  have bounds := month_bounds day.1 day.2
  rw [civil_eq era parts]
  dsimp only
  have inMonth : 153 * ((5 * d + 2) / 153) ≤ 5 * d + 2 ∧ 5 * d + 2 < 153 * ((5 * d + 2) / 153) + 153 := by
    omega
  generalize (5 * d + 2) / 153 = month at *
  obtain ⟨low, high, -⟩ := bounds
  by_cases february : month = 11
  · subst february
    have length : daysInMonth (100 * c + 4 * q + y + era * 400 + 1) 2 =
        if isLeapYear (100 * c + 4 * q + y + era * 400 + 1) then 29 else 28 := rfl
    refine ⟨by decide, by decide, by omega, ?_⟩
    change _ ≤ daysInMonth (100 * c + 4 * q + y + era * 400 + 1) 2
    rw [length]
    split
    · omega
    · rename_i common
      have short : d ≠ 365 := fun last => common (leap last)
      omega
  · have early : month ≤ 10 := by omega
    clear february high leap
    interval_cases month <;> simp only [daysInMonth] <;> simp <;> omega

end ModulatorHealth.Timestamp
