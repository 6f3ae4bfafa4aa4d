import FleetBridge.Proofs.Decimal.Padding
import FleetBridge.Proofs.Time.Calendar
import FleetBridge.Time.Stamp

/-!
# Reading stamps back

A stamp with six decimals is read back, cut to microseconds, as long as the year
has four digits.  Every moment of a wall clock within the years 0000 to 9999 is
of this kind.
-/

namespace FleetBridge
namespace Time
namespace Instant

/-- The instant without what is finer than a microsecond. -/
def cut (i : Instant) : Instant :=
  { i with nanos := i.nanos / 1000 * 1000 }

/-- Whether the instant lies in no leap second and in a year of four digits. -/
def IsDatable (i : Instant) : Prop :=
  i.nanos < 1000000000 ∧ 0 ≤ i.date.year ∧ i.date.year ≤ 9999

open Reading Decimal

theorem fraction?_micros {nanos : Nat} (h : nanos < 1000000000) :
    fraction? (Precision.micros.fractionText nanos ++ ['Z']) =
      some (nanos / 1000 * 1000, ['Z']) := by
  have hspan : spanDigits (padded 6 (nanos / 1000) ++ ['Z']) =
      (paddedDigits 6 (nanos / 1000), ['Z']) := by
    apply spanDigits_padded
    intro c hc
    cases hc
    decide
  have hlength : (paddedDigits 6 (nanos / 1000)).length = 6 :=
    length_paddedDigits (by decide) (by omega)
  have htake : (paddedDigits 6 (nanos / 1000)).take 9 = paddedDigits 6 (nanos / 1000) :=
    List.take_of_length_le (by omega)
  have hvalue := value_paddedDigits 6 (nanos / 1000)
  simp only [Precision.fractionText, List.cons_append, fraction?, hspan]
  cases hds : paddedDigits 6 (nanos / 1000) with
  | nil =>
      rw [hds] at hlength
      cases hlength
  | cons d ds =>
      rw [hds] at hlength htake hvalue
      simp only [htake, hvalue, hlength]

theorem mark?_cons (c : Char) (rest : List Char) : mark? c (c :: rest) = some rest := by
  simp [mark?]

theorem instant?_parts {i : Instant} (h : i.IsDatable) :
    instant? i.date i.hour i.minute i.second (i.fraction / 1000 * 1000) 0 = some i.cut := by
  rcases h with ⟨hnanos, hyear0, hyear1⟩
  have hvalid : i.date.isValid = true := Date.isValid_ofDays i.days
  have hdays : i.date.toDays = i.seconds / 86400 := Date.toDays_ofDays i.days
  have hinRange : yearInRange i.date.year = true := by
    simp only [yearInRange, Bool.and_eq_true, decide_eq_true_eq]
    omega
  have hsecondOfDay : i.secondOfDay < 86400 := by
    simp only [secondOfDay]
    omega
  have hhour : i.hour ≤ 23 := by
    simp only [hour]
    omega
  have hminute : i.minute ≤ 59 := by
    simp only [minute]
    omega
  have hsecond : i.second = i.secondOfDay % 60 := by
    simp only [second]
    omega
  have hfraction : i.fraction = i.nanos := by
    simp only [fraction]
    omega
  have hordinary : ¬ (i.second = 60) := by omega
  have hseconds : i.seconds / 86400 * 86400 +
      ((i.hour * 3600 + i.minute * 60 + i.second : Nat) : Int) - 0 = i.seconds := by
    rw [hsecond]
    simp only [hour, minute, secondOfDay]
    omega
  have hcut : (⟨i.seconds, i.fraction / 1000 * 1000⟩ : Instant) = i.cut := by
    rw [hfraction]
    rfl
  have hcutDate : i.cut.date = i.date := rfl
  have hall : (yearInRange i.date.year && i.date.isValid && decide (i.hour ≤ 23) &&
      decide (i.minute ≤ 59) && decide (i.second ≤ 60) &&
      decide ((0 : Int).natAbs < 86400)) = true := by
    simp only [hinRange, hvalid, Bool.true_and, Bool.and_eq_true, decide_eq_true_eq]
    refine ⟨⟨⟨hhour, hminute⟩, by omega⟩, by decide⟩
  unfold instant?
  rw [if_pos hall]
  simp only [beq_iff_eq, hordinary, if_false, hdays, hseconds, hcut, hcutDate, hinRange,
    if_true]

theorem yearText_of_isDatable {i : Instant} (h : i.IsDatable) :
    yearText i.date.year = padded 4 i.date.year.natAbs := by
  rcases h with ⟨_, hyear0, hyear1⟩
  have hpositive : ¬ (i.date.year < 0) := by omega
  simp [yearText, hpositive, hyear1]

theorem ofStamp?_of_fields {text : String} {year month day hour minute second nanos : Nat}
    {afterYear afterMonth afterDay afterHour afterMinute afterSecond : List Char}
    {i : Instant}
    (hyear : number? 4 4 text.toList = some (year, '-' :: afterYear))
    (hmonth : number? 2 2 afterYear = some (month, '-' :: afterMonth))
    (hday : number? 2 2 afterMonth = some (day, 'T' :: afterDay))
    (hhour : number? 2 2 afterDay = some (hour, ':' :: afterHour))
    (hminute : number? 2 2 afterHour = some (minute, ':' :: afterMinute))
    (hsecond : number? 2 2 afterMinute = some (second, afterSecond))
    (hfraction : fraction? afterSecond = some (nanos, ['Z']))
    (hinstant : instant? ⟨year, month, day⟩ hour minute second nanos 0 = some i) :
    ofStamp? text = some i := by
  refine Option.bind_eq_some_iff.mpr ⟨_, hyear, ?_⟩
  refine Option.bind_eq_some_iff.mpr ⟨_, mark?_cons '-' afterYear, ?_⟩
  refine Option.bind_eq_some_iff.mpr ⟨_, hmonth, ?_⟩
  refine Option.bind_eq_some_iff.mpr ⟨_, mark?_cons '-' afterMonth, ?_⟩
  refine Option.bind_eq_some_iff.mpr ⟨_, hday, ?_⟩
  refine Option.bind_eq_some_iff.mpr ⟨afterDay, rfl, ?_⟩
  refine Option.bind_eq_some_iff.mpr ⟨_, hhour, ?_⟩
  refine Option.bind_eq_some_iff.mpr ⟨_, mark?_cons ':' afterHour, ?_⟩
  refine Option.bind_eq_some_iff.mpr ⟨_, hminute, ?_⟩
  refine Option.bind_eq_some_iff.mpr ⟨_, mark?_cons ':' afterMinute, ?_⟩
  refine Option.bind_eq_some_iff.mpr ⟨_, hsecond, ?_⟩
  refine Option.bind_eq_some_iff.mpr ⟨_, hfraction, ?_⟩
  exact Option.bind_eq_some_iff.mpr ⟨(0, []), rfl, hinstant⟩

theorem toList_stamp {i : Instant} (h : i.IsDatable) :
    (i.stamp .micros).toList =
      padded 4 i.date.year.natAbs ++ '-' :: (padded 2 i.date.month ++
        '-' :: (padded 2 i.date.day ++ 'T' :: (padded 2 i.hour ++ ':' :: (padded 2 i.minute ++
          ':' :: (padded 2 i.second ++
            (Precision.micros.fractionText i.fraction ++ ['Z'])))))) := by
  simp only [stamp, String.toList_ofList, Date.text, timeText, yearText_of_isDatable h,
    List.append_assoc, List.cons_append]

theorem fields_lt {i : Instant} (h : i.IsDatable) :
    i.date.year.natAbs < 10 ^ 4 ∧ i.date.month < 10 ^ 2 ∧ i.date.day < 10 ^ 2 ∧
      i.hour < 10 ^ 2 ∧ i.minute < 10 ^ 2 ∧ i.second < 10 ^ 2 ∧ i.fraction < 1000000000 := by
  rcases h with ⟨hnanos, hyear0, hyear1⟩
  have hdate : 1 ≤ i.date.month ∧ i.date.month ≤ 12 ∧ 1 ≤ i.date.day ∧ i.date.day ≤ 31 :=
    Date.month_day_ofDays i.days
  have htime : i.hour < 10 ^ 2 ∧ i.minute < 10 ^ 2 ∧ i.second < 10 ^ 2 ∧
      i.fraction < 1000000000 := by
    simp only [hour, minute, second, fraction, secondOfDay]
    omega
  refine ⟨by omega, by omega, by omega, htime⟩

theorem ofStamp?_stamp {i : Instant} (h : i.IsDatable) :
    ofStamp? (i.stamp .micros) = some i.cut := by
  rcases fields_lt h with ⟨hyear, hmonth, hday, hhour, hminute, hsecond, hfraction⟩
  have hyearBack : ((i.date.year.natAbs : Nat) : Int) = i.date.year := by
    rcases h with ⟨_, hyear0, hyear1⟩
    omega
  have hdate : (⟨((i.date.year.natAbs : Nat) : Int), i.date.month, i.date.day⟩ : Date) =
      i.date := by
    rw [hyearBack]
  have hfirst := congrArg (number? 4 4) (toList_stamp h)
  rw [number?_padded (by decide) hyear] at hfirst
  refine ofStamp?_of_fields hfirst (number?_padded (by decide) hmonth _)
    (number?_padded (by decide) hday _) (number?_padded (by decide) hhour _)
    (number?_padded (by decide) hminute _) (number?_padded (by decide) hsecond _)
    (fraction?_micros hfraction) ?_
  rw [hdate]
  exact instant?_parts h

end Instant

namespace Moment

def IsDatable (m : Moment) : Prop :=
  0 ≤ m.instant.date.year ∧ m.instant.date.year ≤ 9999

instance (m : Moment) : Decidable m.IsDatable :=
  inferInstanceAs (Decidable (_ ∧ _))

theorem isDatable_instant {m : Moment} (h : m.IsDatable) : m.instant.IsDatable := by
  refine ⟨?_, h⟩
  simp only [instant, Instant.ofNanos]
  omega

theorem toNanos_cut_mono {m n : Moment} (h : m.wall ≤ n.wall) :
    m.instant.cut.toNanos ≤ n.instant.cut.toNanos := by
  simp only [instant, Instant.ofNanos, Instant.cut, Instant.toNanos]
  omega

end Moment

def AllDatable {α : Type} (entries : List (Moment × α)) : Prop :=
  ∀ e ∈ entries, e.1.IsDatable

instance {α : Type} (entries : List (Moment × α)) : Decidable (AllDatable entries) :=
  inferInstanceAs (Decidable (∀ e ∈ entries, e.1.IsDatable))

namespace AllDatable

variable {α : Type} {e : Moment × α} {entries before after : List (Moment × α)}

theorem cons (h : AllDatable (e :: entries)) : e.1.IsDatable ∧ AllDatable entries :=
  List.forall_mem_cons.mp h

theorem left (h : AllDatable (before ++ after)) : AllDatable before :=
  fun e he => h e (List.mem_append_left after he)

theorem right (h : AllDatable (before ++ after)) : AllDatable after :=
  fun e he => h e (List.mem_append_right before he)

end AllDatable
end Time
end FleetBridge
