import TableMachine.Instant.Calendar

/-!
# Days and dates

The date of a day is one of the calendar, and has that day: a day falls into a cycle of 400 years,
there into one of its years, and there into one of the twelve months. Of the years of a cycle, which
all begin in March, the fourth ones are a day longer, but not the last year of the first three
centuries.
-/

namespace TableMachine

namespace Date

/-- The year of the cycle that a day of the cycle lies in. -/
def yearOfCycle (day : Int) : Int :=
  (day - day / 1460 + day / 36524 - day / 146096) / 365

/-- The first day of a year of the cycle. -/
def yearStart (year : Int) : Int :=
  365 * year + year / 4 - year / 100

/-- The date of a day of the year that begins in the March of `year`. -/
def ofMarch (year dayOfYear : Int) : Date :=
  let months := (5 * dayOfYear + 2) / 153
  let month := if months < 10 then months + 3 else months - 9
  ⟨if month ≤ 2 then year + 1 else year, month.toNat,
    (dayOfYear - daysFromMarch months + 1).toNat⟩

section Cycle

variable {day : Int}

/-- The last day of a cycle has a century to itself. -/
theorem century_cases (low : 0 ≤ day) (high : day < 146097) :
    day / 36524 = 0 ∨ day / 36524 = 1 ∨ day / 36524 = 2 ∨ day / 36524 = 3 ∨ day = 146096 := by
  omega

theorem yearOfCycle_bounds (low : 0 ≤ day) (high : day < 146097) :
    0 ≤ yearOfCycle day ∧ yearOfCycle day < 400 := by
  unfold yearOfCycle
  omega

theorem century_of_year (low : 0 ≤ day) (high : day < 146096) :
    yearOfCycle day / 100 = day / 36524 := by
  unfold yearOfCycle
  rcases century_cases low (by omega) with c | c | c | c | c <;> omega

/-- The year has begun by the day, and is over a year after it began. -/
theorem yearStart_bounds (low : 0 ≤ day) (high : day < 146097) :
    yearStart (yearOfCycle day) ≤ day ∧ day ≤ yearStart (yearOfCycle day) + 365 := by
  by_cases last : day = 146096
  · subst last
    decide
  · have century := century_of_year low (by omega)
    have years := yearOfCycle_bounds low high
    generalize taken : yearOfCycle day = year at century years
    unfold yearOfCycle at taken
    unfold yearStart
    rcases century_cases low high with c | c | c | c | c <;> omega

/-- Only a year that ends with a leap day has a day as late as this. -/
theorem leap_of_lastDay (low : 0 ≤ day) (high : day < 146097)
    (last : day = yearStart (yearOfCycle day) + 365) :
    yearOfCycle day % 4 = 3 ∧ (yearOfCycle day % 100 ≠ 99 ∨ yearOfCycle day = 399) := by
  by_cases closing : day = 146096
  · subst closing
    decide
  · have century := century_of_year low (by omega)
    have years := yearOfCycle_bounds low high
    generalize taken : yearOfCycle day = year at century years last ⊢
    unfold yearOfCycle at taken
    unfold yearStart at last
    have fourth : year % 4 = 3 := by
      refine Decidable.byContradiction fun other => ?_
      -- A shorter year lies with its last day in the same four years as with its first.
      have four : day / 1460 = year / 4 := by
        have place : year % 4 = 0 ∨ year % 4 = 1 ∨ year % 4 = 2 := by omega
        rcases place with s | s | s <;> omega
      omega
    refine ⟨fourth, .inl fun hundredth => ?_⟩
    rcases century_cases low high with c | c | c | c | c <;> omega

end Cycle

section Year

variable {dayOfYear : Int}

/-- From March to December the date is in the year itself, and after that in the next. -/
theorem ofMarch_cases (year : Int) (low : 0 ≤ dayOfYear) (high : dayOfYear ≤ 365) :
    ∃ months : Int, 153 * months ≤ 5 * dayOfYear + 2 ∧ 5 * dayOfYear + 2 < 153 * (months + 1) ∧
      (0 ≤ months ∧ months < 10 ∧ ofMarch year dayOfYear =
          ⟨year, (months + 3).toNat, (dayOfYear - daysFromMarch months + 1).toNat⟩ ∨
        10 ≤ months ∧ months < 12 ∧ ofMarch year dayOfYear =
          ⟨year + 1, (months - 9).toNat, (dayOfYear - daysFromMarch months + 1).toNat⟩) := by
  refine ⟨(5 * dayOfYear + 2) / 153, by omega, by omega, ?_⟩
  by_cases early : (5 * dayOfYear + 2) / 153 < 10
  · refine .inl ⟨by omega, early, ?_⟩
    simp only [ofMarch, if_pos early]
    rw [if_neg (by omega)]
  · refine .inr ⟨by omega, by omega, ?_⟩
    simp only [ofMarch, if_neg early]
    rw [if_pos (by omega)]

theorem toDays_ofMarch (year : Int) (low : 0 ≤ dayOfYear) (high : dayOfYear ≤ 365) :
    (ofMarch year dayOfYear).toDays =
      year / 400 * 146097 + (yearStart (year % 400) + dayOfYear) - 719468 := by
  obtain ⟨months, begun, running, ⟨first, last, date⟩ | ⟨first, last, date⟩⟩ :=
    ofMarch_cases year low high
  · have later : ¬ (months + 3).toNat ≤ 2 := by omega
    rw [date]
    simp only [toDays, if_neg later, daysFromMarch, yearStart]
    omega
  · have sooner : (months - 9).toNat ≤ 2 := by omega
    rw [date]
    simp only [toDays, if_pos sooner, daysFromMarch, yearStart, Int.add_sub_cancel]
    omega

/-- A day of the year falls into a month, and into no leap day that the year lacks. -/
theorem inMonth_ofMarch (year : Int) (low : 0 ≤ dayOfYear) (high : dayOfYear ≤ 365)
    (leap : dayOfYear = 365 → isLeap (year + 1) = true) :
    let date := ofMarch year dayOfYear
    1 ≤ date.month ∧ date.month ≤ 12 ∧ 1 ≤ date.day ∧
      date.day ≤ daysInMonth date.year date.month := by
  obtain ⟨months, begun, running, ⟨first, last, date⟩ | ⟨first, last, date⟩⟩ :=
    ofMarch_cases year low high
  · simp only [date, daysInMonth, daysFromMarch]
    refine ⟨by omega, by omega, by omega, ?_⟩
    split
    · omega
    · split <;> omega
  · simp only [date, daysInMonth, daysFromMarch]
    refine ⟨by omega, by omega, by omega, ?_⟩
    split
    · split
      · omega
      · have shorter : dayOfYear ≠ 365 := fun ends => by simp_all
        omega
    · split <;> omega

end Year

/-- The year that a day lies in, counted from its March, and the day of that year. -/
theorem ofDays_eq_ofMarch (days : Int) :
    ∃ year dayOfYear : Int, ofDays days = ofMarch year dayOfYear ∧ 0 ≤ dayOfYear ∧
      dayOfYear ≤ 365 ∧ (dayOfYear = 365 → isLeap (year + 1) = true) ∧
      days = year / 400 * 146097 + (yearStart (year % 400) + dayOfYear) - 719468 := by
  have low : 0 ≤ (days + 719468) % 146097 := by omega
  have high : (days + 719468) % 146097 < 146097 := by omega
  obtain ⟨first, last⟩ := yearOfCycle_bounds low high
  obtain ⟨begun, running⟩ := yearStart_bounds low high
  have leap := leap_of_lastDay low high
  refine ⟨(days + 719468) / 146097 * 400 + yearOfCycle ((days + 719468) % 146097),
    (days + 719468) % 146097 - yearStart (yearOfCycle ((days + 719468) % 146097)), rfl,
    by omega, by omega, fun ends => ?_, ?_⟩
  · obtain ⟨fourth, hundredth⟩ := leap (by omega)
    simp only [isLeap, Bool.and_eq_true, Bool.or_eq_true, decide_eq_true_eq]
    omega
  · have cycle : ((days + 719468) / 146097 * 400 + yearOfCycle ((days + 719468) % 146097)) % 400 =
        yearOfCycle ((days + 719468) % 146097) := by omega
    rw [cycle]
    omega

theorem toDays_ofDays (days : Int) : (ofDays days).toDays = days := by
  obtain ⟨year, dayOfYear, date, low, high, _, counted⟩ := ofDays_eq_ofMarch days
  rw [date, toDays_ofMarch year low high, ← counted]

/-- The date of a day is one of the calendar, as far as its year is. -/
theorem isValid_ofDays {days : Int} (inside : inRange (ofDays days).year = true) :
    (ofDays days).isValid = true := by
  obtain ⟨year, dayOfYear, date, low, high, leap, _⟩ := ofDays_eq_ofMarch days
  rw [date] at inside ⊢
  simpa [isValid, inside, and_assoc] using inMonth_ofMarch year low high leap

theorem month_day_le {d : Date} (valid : d.isValid = true) : d.month ≤ 12 ∧ d.day ≤ 31 := by
  simp only [isValid, Bool.and_eq_true, decide_eq_true_eq] at valid
  obtain ⟨⟨⟨⟨_, _⟩, month⟩, _⟩, day⟩ := valid
  refine ⟨month, Nat.le_trans day ?_⟩
  unfold daysInMonth
  split
  · split <;> decide
  · split <;> decide

end Date

end TableMachine
