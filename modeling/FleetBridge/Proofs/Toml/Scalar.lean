import FleetBridge.Proofs.Decimal.Digits
import FleetBridge.Proofs.Toml.Text
import FleetBridge.Toml.Page
import Mathlib.Data.List.Basic

/-!
# Scalars read back

A number of 64 bits is written as digits behind an optional minus.  Nothing but a whole number
is read from that: a date has a hyphen behind its year, and a time of day has colons.
-/

namespace FleetBridge
namespace Toml

variable {s rest w : List Char}

/-!
# Digits
-/

theorem isDigit_of_mem_chars {ds : List (Fin 10)} {c : Char} (h : c ∈ Decimal.chars ds) :
    Decimal.isDigit c = true := by
  rcases Decimal.digitValue?_of_mem_chars h with ⟨d, hd⟩
  rw [Decimal.isDigit, hd]
  rfl

theorem ungrouped?_of_forall {isDigit : Char → Bool} (hnil : s ≠ [])
    (hall : ∀ c ∈ s, isDigit c = true) (hscore : '_' ∉ s) : ungrouped? isDigit s = some s := by
  induction s with
  | nil => exact absurd rfl hnil
  | cons c s ih =>
      have hc := hall c List.mem_cons_self
      cases s with
      | nil => rw [ungrouped?, if_pos hc]
      | cons d s =>
          have hd : d ≠ '_' := fun h => hscore (h ▸ List.mem_cons_of_mem c List.mem_cons_self)
          have hrest := ih (List.cons_ne_nil d s) (fun e he => hall e (List.mem_cons_of_mem c he))
            (fun h => hscore (List.mem_cons_of_mem c h))
          rw [ungrouped?, if_pos hc, hrest]
          · rfl
          · nofun
          · rintro t heq
            exact hd (List.cons.inj heq).1

theorem digits?_chars {ds : List (Fin 10)} (hnil : ds ≠ []) :
    digits? (Decimal.chars ds) = some ds := by
  have hungrouped : ungrouped? Decimal.isDigit (Decimal.chars ds) = some (Decimal.chars ds) := by
    refine ungrouped?_of_forall ?_ (fun c hc => isDigit_of_mem_chars hc) ?_
    · exact fun h => hnil (List.map_eq_nil_iff.mp h)
    · intro h
      exact absurd (isDigit_of_mem_chars h) (by decide)
  have hspan := Decimal.spanDigits_chars ds [] nofun
  rw [List.append_nil] at hspan
  rw [digits?, hungrouped]
  exact congrArg some (congrArg Prod.fst hspan)

theorem digitChar_ne_zero {d : Fin 10} (h : d.val ≠ 0) : Decimal.digitChar d ≠ '0' := by
  revert d
  decide

theorem wholeDigits?_digits (n : Nat) :
    wholeDigits? (Decimal.chars (Decimal.digits n)) = some (Decimal.digits n) := by
  rcases Nat.eq_zero_or_pos n with hzero | hpos
  · rw [hzero, Decimal.digits_of_lt (by decide)]
    rfl
  · rcases Decimal.exists_digits_eq_cons hpos with ⟨d, ds, hdigits, hd⟩
    have hwhole := digits?_chars (Decimal.digits_ne_nil n)
    rw [hdigits] at hwhole ⊢
    rw [Decimal.chars, List.map_cons] at hwhole ⊢
    rw [wholeDigits?]
    · exact hwhole
    · intro heq
      exact digitChar_ne_zero hd (List.cons.inj heq).1
    · intro t heq
      exact digitChar_ne_zero hd (List.cons.inj heq).1

/-!
# Words that are no moments
-/

theorem eq_cons_of_isPrefixOf? {mark : Char} (h : [mark].isPrefixOf? s = some rest) :
    s = mark :: rest :=
  (List.isPrefixOf?_eq_some_iff_append_eq.mp h).symm

theorem eq_drop_of_fixedDigits? {count n : Nat} (h : fixedDigits? count s = some (n, rest)) :
    rest = s.drop count := by
  rw [fixedDigits?] at h
  dsimp only at h
  split at h
  · injection h with h
    exact (Prod.mk.inj h).2.symm
  · cases h

theorem afterDate?_eq_none (h : '-' ∉ s.drop 4) : afterDate? s = none := by
  rw [afterDate?]
  cases hyear : fixedDigits? 4 s with
  | none => rfl
  | some found =>
      cases hfront : ['-'].isPrefixOf? found.2 with
      | none =>
          dsimp only [Option.bind_eq_bind, Option.bind_some]
          rw [hfront]
          rfl
      | some rest =>
          have hdrop := eq_drop_of_fixedDigits? hyear
          rw [eq_cons_of_isPrefixOf? hfront] at hdrop
          exact absurd (hdrop ▸ List.mem_cons_self) h

theorem afterTime?_eq_none (h : ':' ∉ s) : afterTime? s = none := by
  rw [afterTime?]
  cases hhour : fixedDigits? 2 s with
  | none => rfl
  | some found =>
      cases hfront : [':'].isPrefixOf? found.2 with
      | none =>
          dsimp only [Option.bind_eq_bind, Option.bind_some]
          rw [hfront]
          rfl
      | some rest =>
          have hdrop := eq_drop_of_fixedDigits? hhour
          rw [eq_cons_of_isPrefixOf? hfront] at hdrop
          have hmem : ':' ∈ s.drop 2 := hdrop ▸ List.mem_cons_self
          exact absurd (List.mem_of_mem_drop hmem) h

theorem isMoment_eq_false (hdate : '-' ∉ s.drop 4) (htime : ':' ∉ s) : isMoment s = false := by
  rw [isMoment, afterDate?_eq_none hdate, afterTime?_eq_none htime]

theorem timeBehind?_eq_none (hrest : rest.head? ≠ some ' ') : timeBehind? w rest = none := by
  rw [timeBehind?]
  rintro t rfl
  exact hrest rfl

/-!
# Whole numbers
-/

def signed (negative : Bool) (n : Nat) : List Char :=
  (if negative then ['-'] else []) ++ Decimal.chars (Decimal.digits n)

theorem toList_intText (i : Int) :
    (Decimal.intText i).toList = signed (decide (i < 0)) i.natAbs := by
  rw [Decimal.intText, signed, Decimal.text]
  split
  · rename_i h
    simp [h]
  · rename_i h
    simp [h]

def ofSigned (negative : Bool) (n : Nat) : Int :=
  if negative then -(n : Int) else n

theorem ofSigned_natAbs (i : Int) : ofSigned (decide (i < 0)) i.natAbs = i := by
  rw [ofSigned]
  split
  · rename_i h
    have h : i < 0 := of_decide_eq_true h
    omega
  · rename_i h
    have h : ¬ i < 0 := fun hneg => h (decide_eq_true hneg)
    omega

theorem integer?_negative {n : Nat} (hn : n ≤ signBit) :
    integer? (signed true n) = some (ofSigned true n) := by
  rw [signed, if_pos rfl, List.singleton_append, integer?]
  · rw [sign]
    dsimp only [Option.bind_eq_bind]
    rw [wholeDigits?_digits, Option.bind_some, if_pos rfl, Decimal.value_digits, if_pos hn]
    rfl
  · nofun
  · nofun
  · nofun

theorem integer?_positive {n : Nat} (hn : n < signBit) :
    integer? (signed false n) = some (ofSigned false n) := by
  have hdigits : ∀ c ∈ signed false n, Decimal.isDigit c = true := fun c hc =>
    isDigit_of_mem_chars hc
  have hbase : ∀ c, Decimal.isDigit c = false → ∀ t, signed false n ≠ '0' :: c :: t := by
    intro c hc t heq
    have hmem : c ∈ signed false n := heq ▸ List.mem_cons_of_mem _ List.mem_cons_self
    rw [hdigits c hmem] at hc
    cases hc
  rw [integer?]
  · have hsign : sign (signed false n) = (false, signed false n) := by
      rw [sign]
      · intro t heq
        exact absurd (hdigits '-' (heq ▸ List.mem_cons_self)) (by decide)
      · intro t heq
        exact absurd (hdigits '+' (heq ▸ List.mem_cons_self)) (by decide)
    rw [hsign]
    dsimp only [Option.bind_eq_bind]
    rw [signed, if_neg Bool.false_ne_true, List.nil_append, wholeDigits?_digits, Option.bind_some,
      if_neg Bool.false_ne_true, Decimal.value_digits, if_pos hn]
    rfl
  · exact hbase 'x' rfl
  · exact hbase 'o' rfl
  · exact hbase 'b' rfl

theorem isWordChar_of_isDigit {c : Char} (h : Decimal.isDigit c = true) : isWordChar c = true := by
  cases hword : isWordChar c with
  | true => rfl
  | false =>
      simp only [isWordChar, isSpace, Bool.not_eq_false', Bool.or_eq_true, beq_iff_eq] at hword
      rcases hword with ((((((rfl | rfl) | rfl) | rfl) | rfl) | rfl) | rfl) | rfl
      all_goals exact absurd h (by decide)

theorem mem_signed {negative : Bool} {n : Nat} {c : Char} (h : c ∈ signed negative n) :
    c = '-' ∨ Decimal.isDigit c = true := by
  rw [signed, List.mem_append] at h
  rcases h with hsign | hdigits
  · cases negative with
    | false => cases hsign
    | true => exact Or.inl (List.mem_singleton.mp hsign)
  · exact Or.inr (isDigit_of_mem_chars hdigits)

theorem not_mem_drop_signed (negative : Bool) (n count : Nat) :
    '-' ∉ (signed negative n).drop (count + 1) := by
  have hdigits : '-' ∉ Decimal.chars (Decimal.digits n) := fun h =>
    absurd (isDigit_of_mem_chars h) (by decide)
  intro h
  cases negative with
  | false => exact hdigits (List.mem_of_mem_drop h)
  | true => exact hdigits (List.mem_of_mem_drop (i := count) h)

theorem ofWord?_signed {negative : Bool} {n : Nat}
    (hn : n < signBit ∨ negative = true ∧ n ≤ signBit) :
    ofWord? (signed negative n) = some (.integer (ofSigned negative n)) := by
  have hletter : ∀ c ∈ signed negative n, ∀ d, d ≠ '-' → Decimal.isDigit d = false → c ≠ d := by
    rintro c hc d hminus hdigit rfl
    rcases mem_signed hc with hc | hc
    · exact hminus hc
    · rw [hc] at hdigit
      cases hdigit
  have htrue : signed negative n ≠ "true".toList := fun h =>
    hletter 't' (h ▸ by decide) 't' (by decide) rfl rfl
  have hfalse : signed negative n ≠ "false".toList := fun h =>
    hletter 'f' (h ▸ by decide) 'f' (by decide) rfl rfl
  have hmoment : isMoment (signed negative n) = false :=
    isMoment_eq_false (not_mem_drop_signed negative n 3)
      (fun h => hletter ':' h ':' (by decide) rfl rfl)
  have hinteger : integer? (signed negative n) = some (ofSigned negative n) := by
    rcases hn with hn | ⟨rfl, hn⟩
    · cases negative with
      | false => exact integer?_positive hn
      | true => exact integer?_negative (Nat.le_of_lt hn)
    · exact integer?_negative hn
  rw [ofWord?, if_neg (fun h => htrue (beq_iff_eq.mp h)),
    if_neg (fun h => hfalse (beq_iff_eq.mp h)), if_neg (Bool.eq_false_iff.mp hmoment), hinteger]

theorem word?_append {v : Value} (hword : ∀ c ∈ w, isWordChar c = true)
    (hvalue : ofWord? w = some v) : word? (w ++ '\n' :: rest) = some (v, '\n' :: rest) := by
  have htake : (w ++ '\n' :: rest).takeWhile isWordChar = w := by
    rw [List.takeWhile_append_of_pos hword, List.takeWhile_cons_of_neg (by decide), List.append_nil]
  have hdrop : (w ++ '\n' :: rest).dropWhile isWordChar = '\n' :: rest := by
    rw [List.dropWhile_append_of_pos hword, List.dropWhile_cons_of_neg (by decide)]
  have htime : timeBehind? w ('\n' :: rest) = none :=
    timeBehind?_eq_none (fun h => absurd (Option.some.inj h) (by decide))
  rw [word?, htake, hdrop, htime, hvalue]
  rfl

/-!
# Scalars
-/

theorem value?_number {fuel room : Nat} {c : Char} {t : List Char}
    (hc : c = '-' ∨ Decimal.isDigit c = true) :
    value? (fuel + 1) room (c :: t) = word? (c :: t) := by
  have hhead : ∀ d, d ≠ '-' → Decimal.isDigit d = false → ∀ s, c :: t ≠ d :: s := by
    rintro d hminus hdigit s heq
    cases heq
    rcases hc with hc | hc
    · exact hminus hc
    · rw [hc] at hdigit
      cases hdigit
  rw [value?]
  · exact hhead '"' (by decide) rfl
  · exact hhead '\'' (by decide) rfl
  · exact fun s heq _ => hhead '[' (by decide) rfl s heq
  · exact fun s heq _ => hhead '\x7b' (by decide) rfl s heq
  · exact fun s _ heq _ => hhead '[' (by decide) rfl s heq
  · exact fun s _ heq _ => hhead '\x7b' (by decide) rfl s heq

theorem exists_signed_eq_cons (negative : Bool) (n : Nat) : ∃ c t, signed negative n = c :: t := by
  cases negative with
  | true => exact ⟨'-', _, rfl⟩
  | false =>
      rcases List.exists_cons_of_ne_nil (Decimal.digits_ne_nil n) with ⟨d, ds, hdigits⟩
      exact ⟨Decimal.digitChar d, Decimal.chars ds, by rw [signed, hdigits]; rfl⟩

theorem value?_integer {fuel room : Nat} {i : Int} (hi : (Scalar.integer i).isWritable = true) :
    value? (fuel + 1) room ((Scalar.integer i).written ++ '\n' :: rest) =
      some (.integer i, '\n' :: rest) := by
  rw [Scalar.isWritable, Bool.and_eq_true, decide_eq_true_eq, decide_eq_true_eq] at hi
  have hmagnitude : i.natAbs < signBit ∨ decide (i < 0) = true ∧ i.natAbs ≤ signBit := by
    rw [decide_eq_true_eq, signBit]
    omega
  have hword : ∀ c ∈ signed (decide (i < 0)) i.natAbs, isWordChar c = true := by
    intro c hc
    rcases mem_signed hc with rfl | hdigit
    · rfl
    · exact isWordChar_of_isDigit hdigit
  have hvalue := ofWord?_signed hmagnitude
  rw [ofSigned_natAbs] at hvalue
  have hread : word? (signed (decide (i < 0)) i.natAbs ++ '\n' :: rest) =
      some (.integer i, '\n' :: rest) := word?_append hword hvalue
  rw [Scalar.written, toList_intText]
  rcases exists_signed_eq_cons (decide (i < 0)) i.natAbs with ⟨c, t, hcons⟩
  have hc : c ∈ signed (decide (i < 0)) i.natAbs := hcons ▸ List.mem_cons_self
  rw [hcons, List.cons_append] at hread ⊢
  rw [value?_number (mem_signed hc)]
  exact hread

theorem value?_quoted {fuel room : Nat} {q : Quoting} {t : List Char} :
    value? (fuel + 1) room (q.mark :: t) =
      (text? (q.mark :: t)).map (fun (cs, s) => (.text (String.ofList cs), s)) := by
  rw [Quoting.mark]
  cases q.literal with
  | false => rfl
  | true => rfl

theorem exists_writtenText_eq_cons (s : List Char) :
    ∃ t, writtenText s = (Quoting.of s).mark :: t := by
  rw [writtenText]
  cases hlong : (Quoting.of s).long with
  | false => exact ⟨_, by rw [Quoting.marks_short hlong]; rfl⟩
  | true => exact ⟨_, by rw [Quoting.marks_long hlong]; rfl⟩

theorem value?_text (fuel room : Nat) (s : String) :
    value? (fuel + 1) room ((Scalar.text s).written ++ '\n' :: rest) =
      some (.text s, '\n' :: rest) := by
  have hread : text? (writtenText s.toList ++ '\n' :: rest) = some (s.toList, '\n' :: rest) :=
    text?_writtenText s.toList (fun h => absurd (Option.some.inj h) (by decide))
      (fun h => absurd (Option.some.inj h) (by decide))
  rw [Scalar.written]
  rcases exists_writtenText_eq_cons s.toList with ⟨t, hcons⟩
  rw [hcons, List.cons_append] at hread ⊢
  rw [value?_quoted, hread, Option.map_some]
  dsimp only
  rw [String.ofList_toList]

/-- A scalar is read as it was written at the end of a line. -/
theorem value?_written {a : Scalar} (ha : a.isWritable = true) (fuel room : Nat) :
    value? (fuel + 1) room (a.written ++ '\n' :: rest) = some (a.value, '\n' :: rest) := by
  cases a with
  | text s => exact value?_text fuel room s
  | integer i => exact value?_integer ha

end Toml
end FleetBridge
