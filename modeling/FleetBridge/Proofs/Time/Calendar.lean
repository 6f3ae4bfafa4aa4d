import FleetBridge.Time.Calendar
import Mathlib.Tactic.IntervalCases

/-!
# Days and dates

Counting days from a date and finding the date of a day are inverse to each other.
A day within an era of 400 years is taken apart into centuries, cycles of four
years, years and a rest; the proofs work on these four numbers, in which both
directions are linear.
-/

namespace FleetBridge
namespace Time
namespace Date

/-- The parts of a day within an era, whose years begin on the first of March.  A
year has a day 365 only at the end of a cycle, and then not at the end of a
century, unless the century is the last of the era. -/
structure IsCycle (century cycle year day : Int) : Prop where
  century_nonneg : 0 ≤ century
  century_le : century ≤ 3
  cycle_nonneg : 0 ≤ cycle
  cycle_le : cycle ≤ 24
  year_nonneg : 0 ≤ year
  year_le : year ≤ 3
  day_nonneg : 0 ≤ day
  day_le : day ≤ 365
  year_of_leap : day = 365 → year = 3
  century_of_leap : day = 365 → cycle = 24 → century = 3

theorem exists_isCycle {dayOfEra : Int} (h0 : 0 ≤ dayOfEra) (h1 : dayOfEra < 146097) :
    ∃ century cycle year day, IsCycle century cycle year day ∧
      dayOfEra = 36524 * century + 1461 * cycle + 365 * year + day := by
  have hcentury : ∃ century rest : Int, 0 ≤ century ∧ century ≤ 3 ∧ 0 ≤ rest ∧
      rest ≤ 36524 ∧ (rest = 36524 → century = 3) ∧ dayOfEra = 36524 * century + rest := by
    by_cases h : dayOfEra = 146096
    · exact ⟨3, 36524, by omega⟩
    · exact ⟨dayOfEra / 36524, dayOfEra % 36524, by omega⟩
  rcases hcentury with ⟨century, rest, hc0, hc3, hr0, hr1, hrleap, hday⟩
  have hyear : ∃ year day : Int, 0 ≤ year ∧ year ≤ 3 ∧ 0 ≤ day ∧ day ≤ 365 ∧
      (day = 365 → year = 3) ∧ rest % 1461 = 365 * year + day := by
    by_cases h : rest % 1461 = 1460
    · exact ⟨3, 365, by omega⟩
    · exact ⟨rest % 1461 / 365, rest % 1461 % 365, by omega⟩
  rcases hyear with ⟨year, day, hy0, hy3, hd0, hd1, hdleap, hrest⟩
  refine ⟨century, rest / 1461, year, day, ?_, by omega⟩
  exact
    { century_nonneg := hc0
      century_le := hc3
      cycle_nonneg := by omega
      cycle_le := by omega
      year_nonneg := hy0
      year_le := hy3
      day_nonneg := hd0
      day_le := hd1
      year_of_leap := hdleap
      century_of_leap := by omega }

namespace IsCycle

variable {century cycle year day : Int}

theorem yearOfEra_eq (h : IsCycle century cycle year day) {dayOfEra : Int}
    (hday : dayOfEra = 36524 * century + 1461 * cycle + 365 * year + day) :
    (dayOfEra - dayOfEra / 1460 + dayOfEra / 36524 - dayOfEra / 146096) / 365 =
      100 * century + 4 * cycle + year := by
  rcases h with ⟨hc0, hc3, hq0, hq24, hy0, hy3, hd0, hd1, hleap, hleap'⟩
  have hrest : 1461 * cycle + 365 * year + day ≤ 36523 ∨
      (1461 * cycle + 365 * year + day = 36524 ∧ century = 3) := by
    by_cases hlast : day = 365 <;> omega
  have hcentury : dayOfEra / 36524 - dayOfEra / 146096 = century := by
    rcases hrest with hrest | ⟨hrest, hlast⟩
    · have hbelow : dayOfEra / 146096 = 0 := by omega
      omega
    · omega
  have hcycle : dayOfEra / 1460 = 25 * century + cycle ∨
      (dayOfEra / 1460 = 25 * century + cycle + 1 ∧
        1460 ≤ 24 * century + cycle + 365 * year + day) := by omega
  rcases hcycle with hcycle | ⟨hcycle, hlong⟩ <;> omega

theorem dayOfYear_eq (h : IsCycle century cycle year day) {yearOfEra dayOfEra : Int}
    (hyear : yearOfEra = 100 * century + 4 * cycle + year)
    (hday : dayOfEra = 36524 * century + 1461 * cycle + 365 * year + day) :
    dayOfEra - (365 * yearOfEra + yearOfEra / 4 - yearOfEra / 100) = day := by
  rcases h with ⟨hc0, hc3, hq0, hq24, hy0, hy3, hd0, hd1, hleap, hleap'⟩
  omega

end IsCycle

/-- The date of a day within the year that begins on the first of March. -/
def ofDayOfYear (year day : Int) : Date :=
  let monthFromMarch := (5 * day + 2) / 153
  let month := if monthFromMarch < 10 then monthFromMarch + 3 else monthFromMarch - 9
  { year := if month ≤ 2 then year + 1 else year
    month := month.toNat
    day := (day - (153 * monthFromMarch + 2) / 5 + 1).toNat }

theorem ofDays_eq {century cycle year day : Int} (h : IsCycle century cycle year day)
    (era : Int) :
    ofDays (era * 146097 + (36524 * century + 1461 * cycle + 365 * year + day) - 719468) =
      ofDayOfYear (100 * century + 4 * cycle + year + era * 400) day := by
  have hbounds := h
  rcases hbounds with ⟨hc0, hc3, hq0, hq24, hy0, hy3, hd0, hd1, hleap, hleap'⟩
  have hera : (era * 146097 + (36524 * century + 1461 * cycle + 365 * year + day) - 719468 +
      719468) / 146097 = era := by omega
  have hdayOfEra : (era * 146097 + (36524 * century + 1461 * cycle + 365 * year + day) -
      719468 + 719468) % 146097 =
        36524 * century + 1461 * cycle + 365 * year + day := by omega
  simp only [ofDays, ofDayOfYear, hera, hdayOfEra]
  rw [h.yearOfEra_eq rfl, h.dayOfYear_eq rfl rfl]

theorem exists_ofDays_eq (days : Int) :
    ∃ era century cycle year day, IsCycle century cycle year day ∧
      days = era * 146097 + (36524 * century + 1461 * cycle + 365 * year + day) - 719468 ∧
      ofDays days = ofDayOfYear (100 * century + 4 * cycle + year + era * 400) day := by
  rcases @exists_isCycle ((days + 719468) % 146097) (by omega) (by omega) with
    ⟨century, cycle, year, day, h, hday⟩
  have hdays : days = (days + 719468) / 146097 * 146097 +
      (36524 * century + 1461 * cycle + 365 * year + day) - 719468 := by omega
  refine ⟨(days + 719468) / 146097, century, cycle, year, day, h, hdays, ?_⟩
  have heq := ofDays_eq h ((days + 719468) / 146097)
  rw [← hdays] at heq
  exact heq

theorem toDays_ofDayOfYear (year : Int) {day : Int} (h0 : 0 ≤ day) (h1 : day ≤ 365) :
    (ofDayOfYear year day).toDays =
      year / 400 * 146097 +
        (year % 400 * 365 + year % 400 / 4 - year % 400 / 100 + day) - 719468 := by
  have hmonth : (5 * day + 2) / 153 < 10 ∨ (5 * day + 2) / 153 = 10 ∨
      (5 * day + 2) / 153 = 11 := by omega
  rcases hmonth with hmonth | hmonth | hmonth
  · have hmarch : ¬ ((5 * day + 2) / 153 + 3 ≤ 2) := by omega
    have hmarch' : ¬ (((5 * day + 2) / 153 + 3).toNat ≤ 2) := by omega
    have hback : (((((5 * day + 2) / 153 + 3).toNat + 9) % 12 : Nat) : Int) =
        (5 * day + 2) / 153 := by omega
    simp only [toDays, ofDayOfYear, hmonth, if_true, hmarch, hmarch', if_false, hback]
    omega
  · simp only [toDays, ofDayOfYear, hmonth]
    simp
    omega
  · simp only [toDays, ofDayOfYear, hmonth]
    simp
    omega

theorem toDays_ofDays (days : Int) : (ofDays days).toDays = days := by
  rcases exists_ofDays_eq days with ⟨era, century, cycle, year, day, h, hdays, heq⟩
  rcases h with ⟨hc0, hc3, hq0, hq24, hy0, hy3, hd0, hd1, hleap, hleap'⟩
  have hera : (100 * century + 4 * cycle + year + era * 400) / 400 = era := by omega
  have hyear : (100 * century + 4 * cycle + year + era * 400) % 400 =
      100 * century + 4 * cycle + year := by omega
  rw [heq, toDays_ofDayOfYear _ hd0 hd1, hera, hyear]
  omega

/-- The year of `ofDayOfYear` ends with a leap day when the day 365 is reached. -/
theorem isLeapYear_of_isCycle {century cycle year : Int}
    (h : IsCycle century cycle year 365) (era : Int) :
    isLeapYear (100 * century + 4 * cycle + year + era * 400 + 1) = true := by
  have hyear := h.year_of_leap rfl
  have hcentury := h.century_of_leap rfl
  rcases h with ⟨hc0, hc3, hq0, hq24, hy0, hy3, hd0, hd1, hleap, hleap'⟩
  simp only [isLeapYear, Bool.and_eq_true, Bool.or_eq_true, beq_iff_eq, bne_iff_ne]
  omega

theorem isValid_ofDayOfYear {year day : Int} (h0 : 0 ≤ day) (h1 : day ≤ 365)
    (hleap : day = 365 → isLeapYear (year + 1) = true) :
    (ofDayOfYear year day).isValid = true := by
  have hmonth : ∃ m : Nat, m ≤ 11 ∧ (5 * day + 2) / 153 = m :=
    ⟨((5 * day + 2) / 153).toNat, by omega, by omega⟩
  rcases hmonth with ⟨m, hm, hmonth⟩
  simp only [isValid, ofDayOfYear, hmonth]
  -- The length of a month is known once the month is; only February asks for the year.
  interval_cases m <;> simp [daysInMonth]
  all_goals try omega
  by_cases hlast : day = 365
  · simp [hleap hlast]
    omega
  · have hday : day ≤ 364 := by omega
    by_cases hyear : isLeapYear (year + 1) = true
    · simp [hyear]
      omega
    · simp [hyear]
      omega

theorem isValid_ofDays (days : Int) : (ofDays days).isValid = true := by
  rcases exists_ofDays_eq days with ⟨era, century, cycle, year, day, h, hdays, heq⟩
  rw [heq]
  apply isValid_ofDayOfYear h.day_nonneg h.day_le
  intro hday
  subst hday
  exact isLeapYear_of_isCycle h era

theorem month_day_ofDays (days : Int) :
    1 ≤ (ofDays days).month ∧ (ofDays days).month ≤ 12 ∧ 1 ≤ (ofDays days).day ∧
      (ofDays days).day ≤ 31 := by
  have hvalid := isValid_ofDays days
  simp only [isValid, Bool.and_eq_true, decide_eq_true_eq] at hvalid
  have hlength : daysInMonth (ofDays days).year (ofDays days).month ≤ 31 := by
    unfold daysInMonth
    repeat' split
    all_goals decide
  omega

end Date
end Time
end FleetBridge
