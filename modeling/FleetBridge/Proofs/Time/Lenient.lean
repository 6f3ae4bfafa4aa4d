import FleetBridge.Proofs.Decimal.Digits
import FleetBridge.Proofs.Time.Stamp

/-!
# Reading stamps of the lenient grammar back

A stamp with as few decimals as are exact is read back as the instant it was
written for, leap seconds and years of any length included.  Every instant that
the lenient grammar stands for is written as such a stamp.
-/

namespace FleetBridge
namespace Time

open Decimal

/-! # Fields -/

namespace Reading

theorem trimFront_cons {c : Char} (rest : List Char) (h : Text.isBlank c = false) :
    Text.trimFront (c :: rest) = c :: rest := by
  simp [Text.trimFront, h]

theorem isBlank_digitChar (d : Fin 10) : Text.isBlank (digitChar d) = false := by
  revert d
  decide

theorem exists_padded_append_eq_cons (width n : Nat) (rest : List Char) :
    ∃ d tail, padded width n ++ rest = digitChar d :: tail := by
  rw [padded_eq_chars]
  cases hdigits : paddedDigits width n with
  | nil =>
      rw [paddedDigits, List.append_eq_nil_iff] at hdigits
      exact absurd hdigits.2 (digits_ne_nil n)
  | cons d ds => exact ⟨d, chars ds ++ rest, rfl⟩

theorem trimFront_padded (width n : Nat) (rest : List Char) :
    Text.trimFront (padded width n ++ rest) = padded width n ++ rest := by
  obtain ⟨d, tail, hcons⟩ := exists_padded_append_eq_cons width n rest
  rw [hcons, trimFront_cons tail (isBlank_digitChar d)]

theorem number?_of_le {least more most : Nat} {s rest : List Char} {n : Nat}
    (hle : least ≤ more) (h : number? more most s = some (n, rest)) :
    number? least most s = some (n, rest) := by
  simp only [number?] at h ⊢
  split at h
  · cases h
  · rw [if_neg (by omega)]
    exact h

theorem number?_field {n : Nat} (h : n < 10 ^ 2) (rest : List Char) :
    number? 1 2 (Text.trimFront (padded 2 n ++ rest)) = some (n, rest) := by
  rw [trimFront_padded]
  exact number?_of_le (by decide) (number?_padded (by decide) h rest)

theorem longNumber?_padded (width n : Nat) {rest : List Char}
    (h : ∀ c, rest.head? = some c → digitValue? c = none) :
    longNumber? (padded width n ++ rest) = some (n, rest) := by
  have hvalue := value_paddedDigits width n
  rw [longNumber?, spanDigits_padded width n rest h]
  cases hdigits : paddedDigits width n with
  | nil =>
      rw [paddedDigits, List.append_eq_nil_iff] at hdigits
      exact absurd hdigits.2 (digits_ne_nil n)
  | cons d ds =>
      rw [hdigits] at hvalue
      simp only [hvalue]

theorem exists_yearText_append_eq_cons (year : Int) (rest : List Char) :
    ∃ c tail, yearText year ++ rest = c :: tail ∧ Text.isBlank c = false := by
  simp only [yearText]
  split
  · exact ⟨'-', _, rfl, by decide⟩
  · split
    · obtain ⟨d, tail, hcons⟩ := exists_padded_append_eq_cons 4 year.natAbs rest
      exact ⟨digitChar d, tail, hcons, isBlank_digitChar d⟩
    · exact ⟨'+', _, rfl, by decide⟩

theorem digitChar_ne_sign (d : Fin 10) : digitChar d ≠ '-' ∧ digitChar d ≠ '+' := by
  revert d
  decide

theorem lenientYear?_unsigned {c : Char} {rest : List Char} (hminus : c ≠ '-') (hplus : c ≠ '+') :
    lenientYear? (c :: rest) =
      (number? 1 4 (c :: rest)).map (fun (n, rest) => ((n : Int), rest)) := by
  unfold lenientYear?
  split
  · rename_i heq
    cases heq
    exact absurd rfl hminus
  · rename_i heq
    cases heq
    exact absurd rfl hplus
  · rfl

theorem lenientYear?_yearText (year : Int) (rest : List Char) :
    lenientYear? (yearText year ++ '-' :: rest) = some (year, '-' :: rest) := by
  have hmark : ∀ c, ('-' :: rest).head? = some c → digitValue? c = none := by
    intro c hc
    cases hc
    decide
  have hlong := longNumber?_padded 4 year.natAbs hmark
  by_cases hneg : year < 0
  · have hyear : -(year.natAbs : Int) = year := by omega
    simp only [yearText, hneg, if_true, List.cons_append, lenientYear?, hlong, Option.map_some,
      hyear]
  · have hyear : (year.natAbs : Int) = year := by omega
    by_cases hlarge : year ≤ 9999
    · have hfield : number? 1 4 (padded 4 year.natAbs ++ '-' :: rest) =
          some (year.natAbs, '-' :: rest) :=
        number?_of_le (by decide) (number?_padded (by decide) (by omega) _)
      obtain ⟨d, tail, hcons⟩ := exists_padded_append_eq_cons 4 year.natAbs ('-' :: rest)
      obtain ⟨hminus, hplus⟩ := digitChar_ne_sign d
      simp only [yearText, hneg, if_false, hlarge, if_true, hcons] at hfield ⊢
      simp only [lenientYear?_unsigned hminus hplus, hfield, Option.map_some, hyear]
    · simp only [yearText, hneg, hlarge, if_false, List.cons_append, lenientYear?, hlong,
        Option.map_some, hyear]

theorem fraction?_padded {width n : Nat} (hpos : 0 < width) (hwidth : width ≤ 9)
    (hn : n < 10 ^ width) :
    fraction? ('.' :: padded width n ++ ['Z']) = some (n * Nat.pow 10 (9 - width), ['Z']) := by
  have hspan : spanDigits (padded width n ++ ['Z']) = (paddedDigits width n, ['Z']) := by
    apply spanDigits_padded
    intro c hc
    cases hc
    decide
  have hlength := length_paddedDigits hpos hn
  have htake : (paddedDigits width n).take 9 = paddedDigits width n :=
    List.take_of_length_le (by omega)
  have hvalue := value_paddedDigits width n
  simp only [List.cons_append, fraction?, hspan]
  cases hds : paddedDigits width n with
  | nil =>
      rw [hds, List.length_nil] at hlength
      omega
  | cons d ds =>
      rw [hds] at hlength htake hvalue
      simp only [htake, hvalue, hlength]

theorem fraction?_fewest {nanos : Nat} (h : nanos < 1000000000) :
    fraction? (Precision.fewest.fractionText nanos ++ ['Z']) = some (nanos, ['Z']) := by
  simp only [Precision.fractionText, beq_iff_eq]
  split
  case isTrue hzero =>
    rw [hzero]
    rfl
  case isFalse =>
    split
    case isTrue hmillis =>
      rw [fraction?_padded (by decide) (by decide) (by omega)]
      have hback : nanos / 1000000 * 1000000 = nanos := by omega
      exact congrArg (fun n => some (n, ['Z'])) hback
    case isFalse =>
      split
      case isTrue hmicros =>
        rw [fraction?_padded (by decide) (by decide) (by omega)]
        have hback : nanos / 1000 * 1000 = nanos := by omega
        exact congrArg (fun n => some (n, ['Z'])) hback
      case isFalse =>
        rw [fraction?_padded (by decide) (by decide) (by omega)]
        exact congrArg (fun n => some (n, ['Z'])) (Nat.mul_one nanos)

/-! # What is read from fields -/

theorem lt_of_fraction? {s rest : List Char} {nanos : Nat}
    (h : fraction? s = some (nanos, rest)) : nanos < 1000000000 := by
  unfold fraction? at h
  split at h
  · split at h
    · cases h
    · rename_i ds _ _ _
      cases h
      have hlength : (ds.take 9).length ≤ 9 := List.length_take_le 9 ds
      calc value (ds.take 9) * Nat.pow 10 (9 - (ds.take 9).length)
          < 10 ^ (ds.take 9).length * 10 ^ (9 - (ds.take 9).length) :=
            Nat.mul_lt_mul_of_pos_right (value_lt (ds.take 9)) (Nat.pow_pos (by decide))
        _ = 10 ^ 9 := by rw [← Nat.pow_add, Nat.add_sub_cancel' hlength]
        _ = 1000000000 := rfl
  · cases h
    decide

theorem mod_of_lenientOffset? {s rest : List Char} {offset : Int}
    (h : lenientOffset? s = some (offset, rest)) : offset % 60 = 0 := by
  unfold lenientOffset? at h
  split at h
  · cases h
    rfl
  · split at h
    · cases h
      rfl
    · cases h
      rfl
    · obtain ⟨⟨sign, s⟩, _, h⟩ := Option.bind_eq_some_iff.mp h
      obtain ⟨⟨hours, s⟩, _, h⟩ := Option.bind_eq_some_iff.mp h
      obtain ⟨⟨minutes, s⟩, _, h⟩ := Option.bind_eq_some_iff.mp h
      cases h
      have hfactor : sign * ((hours * 3600 + minutes * 60 : Nat) : Int) =
          sign * (hours * 60 + minutes : Nat) * 60 := by
        push_cast
        rw [Int.mul_assoc, Int.add_mul, Int.mul_assoc]
        rfl
      rw [hfactor]
      exact Int.mul_emod_left _ 60

end Reading

namespace Instant

open Reading

/-- Whether a stamp can stand for the instant: its year is in range, and only in the
last second of a minute can there be a leap second. -/
def IsLegible (i : Instant) : Prop :=
  yearInRange i.date.year = true ∧ i.nanos < 2000000000 ∧
    (1000000000 ≤ i.nanos → i.seconds % 60 = 59)

theorem IsDatable.isLegible {i : Instant} (h : i.IsDatable) : i.IsLegible := by
  obtain ⟨hnanos, hlow, hhigh⟩ := h
  refine ⟨?_, by omega, fun hlarge => absurd hnanos (by omega)⟩
  simp only [yearInRange, Bool.and_eq_true, decide_eq_true_eq]
  omega

/-! # Written stamps -/

theorem instant?_fields {i : Instant} (h : i.IsLegible) :
    instant? i.date i.hour i.minute i.second i.fraction 0 = some i := by
  obtain ⟨hinRange, hnanos, hleap⟩ := h
  have hvalid : i.date.isValid = true := Date.isValid_ofDays i.days
  have hdays : i.date.toDays = i.seconds / 86400 := Date.toDays_ofDays i.days
  have hhour : i.hour ≤ 23 := by
    simp only [hour, secondOfDay]
    omega
  have hminute : i.minute ≤ 59 := by
    simp only [minute]
    omega
  have hsecondOfDay : i.secondOfDay % 60 = (i.seconds % 60).toNat := by
    simp only [secondOfDay]
    omega
  have hsecond : i.second ≤ 60 := by
    simp only [second]
    omega
  have hall : (yearInRange i.date.year && i.date.isValid && decide (i.hour ≤ 23) &&
      decide (i.minute ≤ 59) && decide (i.second ≤ 60) &&
      decide ((0 : Int).natAbs < 86400)) = true := by
    simp only [hinRange, hvalid, Bool.true_and, Bool.and_eq_true, decide_eq_true_eq]
    exact ⟨⟨⟨hhour, hminute⟩, hsecond⟩, by decide⟩
  have hback (second nanos : Nat) (hsplit : second = i.secondOfDay % 60)
      (hrest : nanos = i.nanos) :
      (⟨i.seconds / 86400 * 86400 +
        ((i.hour * 3600 + i.minute * 60 + second : Nat) : Int) - 0, nanos⟩ : Instant) = i := by
    have hseconds : i.seconds / 86400 * 86400 +
        ((i.hour * 3600 + i.minute * 60 + second : Nat) : Int) - 0 = i.seconds := by
      rw [hsplit]
      simp only [hour, minute, secondOfDay]
      omega
    rw [hseconds, hrest]
  unfold instant?
  rw [if_pos hall]
  by_cases hlast : i.second = 60
  · have hparts : 59 = i.secondOfDay % 60 ∧ i.fraction + 1000000000 = i.nanos := by
      simp only [second, fraction] at hlast ⊢
      omega
    simp only [beq_iff_eq, hlast, if_true, hdays, hback 59 _ hparts.1 hparts.2, hinRange]
  · have hparts : i.second = i.secondOfDay % 60 ∧ i.fraction = i.nanos := by
      simp only [second, fraction] at hlast ⊢
      omega
    simp only [beq_iff_eq, hlast, if_false, hdays, hback _ _ hparts.1 hparts.2, hinRange, if_true]

theorem ofLenientStamp?_of_fields {text : String} {year : Int}
    {month day hour minute second nanos : Nat}
    {afterYear afterMonth afterDay afterHour afterMinute afterSecond : List Char} {i : Instant}
    (hyear : lenientYear? (Text.trimFront text.toList) = some (year, '-' :: afterYear))
    (hmonth : number? 1 2 (Text.trimFront afterYear) = some (month, '-' :: afterMonth))
    (hday : number? 1 2 (Text.trimFront afterMonth) = some (day, 'T' :: afterDay))
    (hhour : number? 1 2 (Text.trimFront afterDay) = some (hour, ':' :: afterHour))
    (hminute : number? 1 2 (Text.trimFront afterHour) = some (minute, ':' :: afterMinute))
    (hsecond : number? 1 2 (Text.trimFront afterMinute) = some (second, afterSecond))
    (hfraction : fraction? afterSecond = some (nanos, ['Z']))
    (hinstant : instant? ⟨year, month, day⟩ hour minute second nanos 0 = some i) :
    ofLenientStamp? text = some i := by
  have hminus (rest : List Char) : mark? '-' (Text.trimFront ('-' :: rest)) = some rest := by
    rw [trimFront_cons rest (by decide), mark?_cons]
  have hcolon (rest : List Char) : mark? ':' (Text.trimFront (':' :: rest)) = some rest := by
    rw [trimFront_cons rest (by decide), mark?_cons]
  refine Option.bind_eq_some_iff.mpr ⟨_, hyear, ?_⟩
  refine Option.bind_eq_some_iff.mpr ⟨_, hminus afterYear, ?_⟩
  refine Option.bind_eq_some_iff.mpr ⟨_, hmonth, ?_⟩
  refine Option.bind_eq_some_iff.mpr ⟨_, hminus afterMonth, ?_⟩
  refine Option.bind_eq_some_iff.mpr ⟨_, hday, ?_⟩
  refine Option.bind_eq_some_iff.mpr ⟨afterDay, rfl, ?_⟩
  refine Option.bind_eq_some_iff.mpr ⟨_, hhour, ?_⟩
  refine Option.bind_eq_some_iff.mpr ⟨_, hcolon afterHour, ?_⟩
  refine Option.bind_eq_some_iff.mpr ⟨_, hminute, ?_⟩
  refine Option.bind_eq_some_iff.mpr ⟨_, hcolon afterMinute, ?_⟩
  refine Option.bind_eq_some_iff.mpr ⟨_, hsecond, ?_⟩
  refine Option.bind_eq_some_iff.mpr ⟨_, hfraction, ?_⟩
  exact Option.bind_eq_some_iff.mpr ⟨(0, []), rfl, hinstant⟩

def behindYear (i : Instant) : List Char :=
  padded 2 i.date.month ++ '-' :: (padded 2 i.date.day ++ 'T' :: (padded 2 i.hour ++
    ':' :: (padded 2 i.minute ++ ':' :: (padded 2 i.second ++
      (Precision.fewest.fractionText i.fraction ++ ['Z'])))))

theorem toList_stamp_fewest (i : Instant) :
    (i.stamp .fewest).toList = yearText i.date.year ++ '-' :: i.behindYear := by
  simp only [stamp, String.toList_ofList, Date.text, timeText, behindYear, List.append_assoc,
    List.cons_append]

theorem lenientYear?_stamp (i : Instant) :
    lenientYear? (Text.trimFront (i.stamp .fewest).toList) =
      some (i.date.year, '-' :: i.behindYear) := by
  obtain ⟨c, tail, hcons, hblank⟩ :=
    exists_yearText_append_eq_cons i.date.year ('-' :: i.behindYear)
  rw [toList_stamp_fewest, hcons, trimFront_cons tail hblank, ← hcons, lenientYear?_yearText]

/-- A stamp with as few decimals as are exact is read back. -/
theorem ofLenientStamp?_stamp {i : Instant} (h : i.IsLegible) :
    ofLenientStamp? (i.stamp .fewest) = some i := by
  have hvalid : i.date.isValid = true := Date.isValid_ofDays i.days
  simp only [Date.isValid, Bool.and_eq_true, decide_eq_true_eq] at hvalid
  have hmonthLength : daysInMonth i.date.year i.date.month ≤ 31 := by
    unfold daysInMonth
    repeat' split
    all_goals decide
  have hmonth : i.date.month < 10 ^ 2 := by omega
  have hday : i.date.day < 10 ^ 2 := by omega
  have hhour : i.hour < 10 ^ 2 := by
    simp only [hour, secondOfDay]
    omega
  have hminute : i.minute < 10 ^ 2 := by
    simp only [minute]
    omega
  have hsecond : i.second < 10 ^ 2 := by
    have hnanos := h.2.1
    simp only [second]
    omega
  have hfraction : i.fraction < 1000000000 := by
    simp only [fraction]
    omega
  exact ofLenientStamp?_of_fields (lenientYear?_stamp i) (number?_field hmonth _)
    (number?_field hday _) (number?_field hhour _) (number?_field hminute _)
    (number?_field hsecond _) (fraction?_fewest hfraction) (instant?_fields h)

/-! # Stamps that are read -/

theorem isLegible_of_instant? {date : Date} {hour minute second nanos : Nat} {offset : Int}
    {i : Instant} (hnanos : nanos < 1000000000) (hoffset : offset % 60 = 0)
    (h : instant? date hour minute second nanos offset = some i) : i.IsLegible := by
  unfold instant? at h
  split at h
  case isFalse => cases h
  case isTrue hall =>
    dsimp only at h
    split at h
    case isTrue hleap =>
      split at h
      case isFalse => cases h
      case isTrue hinRange =>
        cases h
        refine ⟨hinRange, ?_, fun _ => ?_⟩
        · simp only
          omega
        · simp only
          omega
    case isFalse hordinary =>
      split at h
      case isFalse => cases h
      case isTrue hinRange =>
        cases h
        refine ⟨hinRange, ?_, fun hlarge => ?_⟩
        · simp only
          omega
        · simp only at hlarge
          omega

theorem isLegible_of_ofLenientStamp? {text : String} {i : Instant}
    (h : ofLenientStamp? text = some i) : i.IsLegible := by
  obtain ⟨⟨year, s⟩, _, h⟩ := Option.bind_eq_some_iff.mp h
  obtain ⟨s, _, h⟩ := Option.bind_eq_some_iff.mp h
  obtain ⟨⟨month, s⟩, _, h⟩ := Option.bind_eq_some_iff.mp h
  obtain ⟨s, _, h⟩ := Option.bind_eq_some_iff.mp h
  obtain ⟨⟨day, s⟩, _, h⟩ := Option.bind_eq_some_iff.mp h
  obtain ⟨s, _, h⟩ := Option.bind_eq_some_iff.mp h
  obtain ⟨⟨hour, s⟩, _, h⟩ := Option.bind_eq_some_iff.mp h
  obtain ⟨s, _, h⟩ := Option.bind_eq_some_iff.mp h
  obtain ⟨⟨minute, s⟩, _, h⟩ := Option.bind_eq_some_iff.mp h
  obtain ⟨s, _, h⟩ := Option.bind_eq_some_iff.mp h
  obtain ⟨⟨second, s⟩, _, h⟩ := Option.bind_eq_some_iff.mp h
  obtain ⟨⟨nanos, s⟩, hfraction, h⟩ := Option.bind_eq_some_iff.mp h
  obtain ⟨⟨offset, s⟩, hoffset, h⟩ := Option.bind_eq_some_iff.mp h
  dsimp only at h
  split at h
  · exact isLegible_of_instant? (lt_of_fraction? hfraction) (mod_of_lenientOffset? hoffset) h
  · cases h

end Instant
end Time
end FleetBridge
