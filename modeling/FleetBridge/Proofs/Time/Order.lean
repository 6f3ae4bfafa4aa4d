import FleetBridge.Proofs.Time.Lenient
import Mathlib.Order.Monotone.Basic

/-!
# The order of stamps

Where records are put in order of time, their stamps are compared as texts.  The fields
of a stamp with six decimals have fixed widths and come largest first, so one stamp is
below another exactly if its instant, cut to microseconds, is the earlier one.  Of the
fields, only those of the date need an argument: days are in the order of their dates.
-/

namespace FleetBridge
namespace Decimal

/-! # Numbers of one width -/

theorem digitChar_lt_digitChar_iff {d e : Fin 10} :
    digitChar d < digitChar e ↔ d.val < e.val := by
  revert d e
  decide

theorem digitChar_inj {d e : Fin 10} : digitChar d = digitChar e ↔ d.val = e.val := by
  revert d e
  decide

/-- Digits compare as the numbers that they spell, if there are as many of them. -/
theorem chars_append_lt_iff {as bs : List (Fin 10)} (h : as.length = bs.length)
    (rest rest' : List Char) :
    chars as ++ rest < chars bs ++ rest' ↔
      value as < value bs ∨ value as = value bs ∧ rest < rest' := by
  induction as generalizing bs with
  | nil =>
      rw [List.length_eq_zero_iff.mp h.symm]
      simp [chars]
  | cons d as ih =>
      cases bs with
      | nil => cases h
      | cons e bs =>
          have hlength : as.length = bs.length := Nat.succ.inj h
          have has := value_lt as
          have hbs := value_lt bs
          show digitChar d :: (chars as ++ rest) < digitChar e :: (chars bs ++ rest') ↔ _
          rw [List.cons_lt_cons_iff, ih hlength, digitChar_lt_digitChar_iff, digitChar_inj,
            value_cons, value_cons, hlength]
          rw [hlength] at has
          generalize 10 ^ bs.length = scale at has hbs ⊢
          rcases Nat.lt_trichotomy d.val e.val with hlt | heq | hlt
          · have hstep := Nat.mul_le_mul_right scale (Nat.succ_le_of_lt hlt)
            rw [Nat.succ_mul] at hstep
            omega
          · simp only [heq, Nat.lt_irrefl, true_and, false_or, Nat.add_lt_add_iff_left,
              Nat.add_left_cancel_iff]
          · have hstep := Nat.mul_le_mul_right scale (Nat.succ_le_of_lt hlt)
            rw [Nat.succ_mul] at hstep
            omega

theorem padded_append_lt_iff {width m n : Nat} (hwidth : 0 < width) (hm : m < 10 ^ width)
    (hn : n < 10 ^ width) (rest rest' : List Char) :
    padded width m ++ rest < padded width n ++ rest' ↔ m < n ∨ m = n ∧ rest < rest' := by
  have hlength := (length_paddedDigits hwidth hm).trans (length_paddedDigits hwidth hn).symm
  rw [padded_eq_chars, padded_eq_chars, chars_append_lt_iff hlength, value_paddedDigits,
    value_paddedDigits]

end Decimal

namespace Time

/-! # Dates -/

namespace Date

/-- A date as one number that grows along the calendar. -/
def rank (d : Date) : Int :=
  (d.year * 12 + d.month) * 32 + d.day

theorem rank_ofDayOfYear (year : Int) {day : Int} (h0 : 0 ≤ day) (h1 : day ≤ 365) :
    (ofDayOfYear year day).rank =
      (year * 12 + (5 * day + 2) / 153 + 3) * 32 +
        (day - (153 * ((5 * day + 2) / 153) + 2) / 5 + 1) := by
  have hmonth : 0 ≤ (5 * day + 2) / 153 ∧ (5 * day + 2) / 153 ≤ 11 := by omega
  simp only [rank, ofDayOfYear]
  split <;> split <;> omega

theorem exists_ofDayOfYear_eq (days : Int) :
    ∃ year day, 0 ≤ day ∧ day ≤ 365 ∧ (day = 365 → isLeapYear (year + 1) = true) ∧
      ofDays days = ofDayOfYear year day ∧
      days = 365 * year + year / 4 - year / 100 + year / 400 + day - 719468 := by
  rcases exists_ofDays_eq days with ⟨era, century, cycle, year, day, h, hdays, heq⟩
  refine ⟨_, day, h.day_nonneg, h.day_le, ?_, heq, ?_⟩
  · intro hlast
    subst hlast
    exact isLeapYear_of_isCycle h era
  · rcases h with ⟨hc0, hc3, hq0, hq24, hy0, hy3, hd0, hd1, hleap, hleap'⟩
    omega

theorem isLeapYear_iff {year : Int} :
    isLeapYear year = true ↔ year % 4 = 0 ∧ (year % 100 ≠ 0 ∨ year % 400 = 0) := by
  simp [isLeapYear]

theorem rank_ofDays_lt {a b : Int} (h : a < b) : (ofDays a).rank < (ofDays b).rank := by
  rcases exists_ofDayOfYear_eq a with ⟨year, day, h0, h1, hleap, heq, ha⟩
  rcases exists_ofDayOfYear_eq b with ⟨year', day', h0', h1', hleap', heq', hb⟩
  rw [isLeapYear_iff] at hleap hleap'
  rw [heq, heq', rank_ofDayOfYear year h0 h1, rank_ofDayOfYear year' h0' h1']
  have hyear : year < year' ∨ year = year' ∧ day < day' := by
    rcases lt_trichotomy year year' with hlt | rfl | hlt
    · exact Or.inl hlt
    · exact Or.inr ⟨rfl, by omega⟩
    · omega
  have hmonth : 0 ≤ day - (153 * ((5 * day + 2) / 153) + 2) / 5 ∧
      day - (153 * ((5 * day + 2) / 153) + 2) / 5 ≤ 30 := by omega
  have hmonth' : 0 ≤ day' - (153 * ((5 * day' + 2) / 153) + 2) / 5 ∧
      day' - (153 * ((5 * day' + 2) / 153) + 2) / 5 ≤ 30 := by omega
  rcases hyear with hyear | ⟨rfl, hday⟩
  · omega
  · have hle : (5 * day + 2) / 153 ≤ (5 * day' + 2) / 153 := by omega
    rcases eq_or_lt_of_le hle with hsame | hlater
    · rw [hsame]
      omega
    · omega

theorem fields_lt_iff {a b : Int} {later : Prop} :
    ((ofDays a).year < (ofDays b).year ∨ (ofDays a).year = (ofDays b).year ∧
      ((ofDays a).month < (ofDays b).month ∨ (ofDays a).month = (ofDays b).month ∧
        ((ofDays a).day < (ofDays b).day ∨ (ofDays a).day = (ofDays b).day ∧ later))) ↔
      a < b ∨ a = b ∧ later := by
  have ha := month_day_ofDays a
  have hb := month_day_ofDays b
  have hmono : StrictMono (fun days => (ofDays days).rank) := fun _ _ => rank_ofDays_lt
  have hlt : (ofDays a).rank < (ofDays b).rank ↔ a < b := hmono.lt_iff_lt
  have heq : (ofDays a).rank = (ofDays b).rank ↔ a = b := hmono.injective.eq_iff
  rw [← hlt, ← heq]
  simp only [rank]
  by_cases hlater : later
  · simp only [hlater, and_true]
    omega
  · simp only [hlater, and_false, or_false]
    omega

end Date

/-! # Stamps -/

namespace Instant

open Decimal

theorem fraction_lt_iff {m n : Nat} (hm : m < 1000000000) (hn : n < 1000000000) :
    Precision.micros.fractionText m ++ ['Z'] < Precision.micros.fractionText n ++ ['Z'] ↔
      m / 1000 < n / 1000 := by
  show '.' :: (padded 6 (m / 1000) ++ ['Z']) < '.' :: (padded 6 (n / 1000) ++ ['Z']) ↔ _
  rw [List.cons_lt_cons_self, padded_append_lt_iff (by decide) (by omega) (by omega)]
  simp

theorem time_lt_iff {i j : Instant} (hi : i.nanos < 1000000000) (hj : j.nanos < 1000000000) :
    (i.hour < j.hour ∨ i.hour = j.hour ∧ (i.minute < j.minute ∨ i.minute = j.minute ∧
      (i.second < j.second ∨ i.second = j.second ∧ i.fraction / 1000 < j.fraction / 1000))) ↔
      i.secondOfDay < j.secondOfDay ∨
        i.secondOfDay = j.secondOfDay ∧ i.nanos / 1000 < j.nanos / 1000 := by
  simp only [hour, minute, second, fraction]
  omega

/-- Stamps compare as texts as their instants do in time. -/
theorem stamp_lt_stamp_iff {i j : Instant} (hi : i.IsDatable) (hj : j.IsDatable) :
    i.stamp .micros < j.stamp .micros ↔ i.cut.toNanos < j.cut.toNanos := by
  rcases fields_lt hi with ⟨hyear, hmonth, hday, hhour, hminute, hsecond, hfraction⟩
  rcases fields_lt hj with ⟨hyear', hmonth', hday', hhour', hminute', hsecond', hfraction'⟩
  rw [String.lt_iff, toList_stamp hi, toList_stamp hj,
    padded_append_lt_iff (by decide) hyear hyear', List.cons_lt_cons_self,
    padded_append_lt_iff (by decide) hmonth hmonth', List.cons_lt_cons_self,
    padded_append_lt_iff (by decide) hday hday', List.cons_lt_cons_self,
    padded_append_lt_iff (by decide) hhour hhour', List.cons_lt_cons_self,
    padded_append_lt_iff (by decide) hminute hminute', List.cons_lt_cons_self,
    padded_append_lt_iff (by decide) hsecond hsecond', fraction_lt_iff hfraction hfraction',
    time_lt_iff hi.1 hj.1]
  have hdays : i.cut.toNanos < j.cut.toNanos ↔
      i.days < j.days ∨ i.days = j.days ∧ (i.secondOfDay < j.secondOfDay ∨
        i.secondOfDay = j.secondOfDay ∧ i.nanos / 1000 < j.nanos / 1000) := by
    simp only [cut, toNanos, days, secondOfDay]
    have hnanos := hi.1
    have hnanos' := hj.1
    omega
  have hyears : i.date.year.natAbs < j.date.year.natAbs ↔ i.date.year < j.date.year := by
    have hpositive := hi.2
    have hpositive' := hj.2
    omega
  have hyears' : i.date.year.natAbs = j.date.year.natAbs ↔ i.date.year = j.date.year := by
    have hpositive := hi.2
    have hpositive' := hj.2
    omega
  rw [hdays, hyears, hyears']
  exact Date.fields_lt_iff

end Instant
end Time
end FleetBridge
