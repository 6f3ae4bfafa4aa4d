import FleetBridge.Json.Number
import FleetBridge.Proofs.Decimal.Digits

/-!
# Reading literals back

Every literal has one spelling that is written, and that spelling is read as the
literal again.  It consists of characters that can stand within a number, so a
reader that takes all of these takes all of it.
-/

namespace FleetBridge
namespace Json
namespace Literal

open Decimal

/-- Whether a text begins with no digit. -/
def StartsPlain (rest : List Char) : Prop :=
  ∀ c, rest.head? = some c → digitValue? c = none

theorem startsPlain_nil : StartsPlain [] := by
  intro c hc
  cases hc

theorem startsPlain_cons {c : Char} {rest : List Char} (h : digitValue? c = none) :
    StartsPlain (c :: rest) := by
  intro d hd
  cases hd
  exact h

/-! # The parts of a literal -/

def fractionChars (ds : List (Fin 10)) : List Char :=
  if ds.isEmpty then [] else '.' :: Decimal.chars ds

def tailChars (e : Option Int) : List Char :=
  (e.map exponentChars).getD []

theorem chars_eq (l : Literal) :
    l.chars = (if l.negative then ['-'] else []) ++ (Decimal.chars (digits l.whole) ++
      (fractionChars l.fraction ++ tailChars l.exponent)) := by
  simp only [chars, fractionChars, tailChars, List.append_assoc]

theorem startsPlain_tailChars (e : Option Int) : StartsPlain (tailChars e) := by
  cases e with
  | none => exact startsPlain_nil
  | some e => exact startsPlain_cons (by decide)

theorem startsPlain_fractionChars (ds : List (Fin 10)) (e : Option Int) :
    StartsPlain (fractionChars ds ++ tailChars e) := by
  cases ds with
  | nil => exact startsPlain_tailChars e
  | cons d ds => exact startsPlain_cons (by decide)

theorem wholeOf?_digits (n : Nat) : wholeOf? (digits n) = some n := by
  have hvalue := value_digits n
  cases hdigits : digits n with
  | nil => exact absurd hdigits (digits_ne_nil n)
  | cons d ds =>
      cases ds with
      | nil =>
          rw [hdigits] at hvalue
          simp only [wholeOf?, ← hvalue, value, List.foldl_cons, List.foldl_nil, Nat.zero_mul,
            Nat.zero_add]
      | cons e ds =>
          have hpos : 0 < n := by
            rcases Nat.eq_zero_or_pos n with hzero | hpos
            · rw [hzero, digits_of_lt (by decide)] at hdigits
              cases hdigits
            · exact hpos
          obtain ⟨d', ds', hcons, hne⟩ := exists_digits_eq_cons hpos
          rw [hdigits] at hcons
          cases hcons
          simp only [wholeOf?, beq_iff_eq, hne, if_false, ← hdigits, hvalue]

theorem fraction?_fractionChars (ds : List (Fin 10)) (e : Option Int) :
    fraction? (fractionChars ds ++ tailChars e) = some (ds, tailChars e) := by
  cases ds with
  | nil =>
      cases e with
      | none => rfl
      | some e => rfl
  | cons d ds =>
      have hspan : spanDigits (Decimal.chars (d :: ds) ++ tailChars e) = (d :: ds, tailChars e) :=
        spanDigits_chars _ _ (startsPlain_tailChars e)
      simp only [fractionChars, List.isEmpty_cons, Bool.false_eq_true, if_false, List.cons_append,
        fraction?, hspan]

theorem exponentOf?_digits (negative : Bool) (n : Nat) :
    exponentOf? negative (Decimal.chars (digits n)) =
      some (if negative then -(n : Int) else n) := by
  have hspan : spanDigits (Decimal.chars (digits n)) = (digits n, []) := by
    have hall := spanDigits_chars (digits n) [] startsPlain_nil
    rwa [List.append_nil] at hall
  have hvalue := value_digits n
  rw [exponentOf?, hspan]
  cases hdigits : digits n with
  | nil => exact absurd hdigits (digits_ne_nil n)
  | cons d ds =>
      rw [hdigits] at hvalue
      simp only [hvalue]

theorem exponent?_tailChars (e : Option Int) : exponent? (tailChars e) = some e := by
  cases e with
  | none => rfl
  | some e =>
      by_cases hneg : e < 0
      · have habs : -(e.natAbs : Int) = e := by omega
        simp only [tailChars, exponentChars, Option.map_some, Option.getD_some, hneg, if_true,
          exponent?, beq_self_eq_true, Bool.true_or, exponentOf?_digits, habs]
      · have habs : (e.natAbs : Int) = e := by omega
        simp only [tailChars, exponentChars, Option.map_some, Option.getD_some, hneg, if_false,
          exponent?, beq_self_eq_true, Bool.true_or, if_true, exponentOf?_digits,
          Bool.false_eq_true, habs]

/-! # The whole literal -/

theorem spanDigits_whole (l : Literal) :
    spanDigits (Decimal.chars (digits l.whole) ++
        (fractionChars l.fraction ++ tailChars l.exponent)) =
      (digits l.whole, fractionChars l.fraction ++ tailChars l.exponent) :=
  spanDigits_chars _ _ (startsPlain_fractionChars l.fraction l.exponent)

theorem digitChar_ne_minus (d : Fin 10) : digitChar d ≠ '-' := by
  revert d
  decide

theorem exists_chars_eq_cons (l : Literal) :
    ∃ d rest, Decimal.chars (digits l.whole) ++
      (fractionChars l.fraction ++ tailChars l.exponent) = digitChar d :: rest := by
  cases hdigits : digits l.whole with
  | nil => exact absurd hdigits (digits_ne_nil l.whole)
  | cons d ds => exact ⟨d, _, rfl⟩

theorem ofChars?_chars (l : Literal) : ofChars? l.chars = some l := by
  have hspan := spanDigits_whole l
  rcases l with ⟨negative, whole, fraction, exponent⟩
  rw [chars_eq]
  cases negative with
  | true =>
      simp only [if_true, List.cons_append, List.nil_append, ofChars?] at hspan ⊢
      simp [hspan, wholeOf?_digits, fraction?_fractionChars, exponent?_tailChars]
  | false =>
      obtain ⟨d, rest, hcons⟩ := exists_chars_eq_cons ⟨false, whole, fraction, exponent⟩
      have hd := digitChar_ne_minus d
      simp only [Bool.false_eq_true, if_false, List.nil_append, ofChars?] at hspan hcons ⊢
      rw [hcons] at hspan ⊢
      simp [hd, hspan, wholeOf?_digits, fraction?_fractionChars, exponent?_tailChars]

/-! # The characters of a literal -/

theorem isNumberChar_of_mem_digits {ds : List (Fin 10)} {c : Char}
    (h : c ∈ Decimal.chars ds) : isNumberChar c = true := by
  obtain ⟨d, hd⟩ := digitValue?_of_mem_chars h
  simp [isNumberChar, isDigit, hd]

theorem isNumberChar_of_mem_chars {l : Literal} {c : Char} (h : c ∈ l.chars) :
    isNumberChar c = true := by
  rcases l with ⟨negative, whole, fraction, exponent⟩
  rw [chars_eq, List.mem_append, List.mem_append, List.mem_append] at h
  rcases h with hsign | hwhole | hfraction | hexponent
  · cases negative with
    | true =>
        rw [List.mem_singleton.mp hsign]
        decide
    | false => cases hsign
  · exact isNumberChar_of_mem_digits hwhole
  · cases fraction with
    | nil => cases hfraction
    | cons d ds =>
        rcases List.mem_cons.mp hfraction with hpoint | hdigits
        · rw [hpoint]
          decide
        · exact isNumberChar_of_mem_digits hdigits
  · cases exponent with
    | none => cases hexponent
    | some e =>
        rcases List.mem_cons.mp hexponent with hmark | hrest
        · rw [hmark]
          decide
        · rcases List.mem_cons.mp hrest with hsign | hdigits
          · rw [hsign]
            split <;> decide
          · exact isNumberChar_of_mem_digits hdigits

theorem exists_cons_of_chars (l : Literal) :
    ∃ c cs, l.chars = c :: cs ∧ (c = '-' ∨ ∃ d, c = digitChar d) := by
  obtain ⟨d, rest, hcons⟩ := exists_chars_eq_cons l
  rw [chars_eq, hcons]
  cases l.negative with
  | true => exact ⟨'-', _, rfl, Or.inl rfl⟩
  | false => exact ⟨digitChar d, rest, rfl, Or.inr ⟨d, rfl⟩⟩

end Literal

namespace Number

theorem ofLiteral?_ofInt {i : Int} (h : IntegerRange i) :
    ofLiteral? (Literal.ofInt i) = some (integer i h) := by
  have hinteger : (Literal.ofInt i).isInteger = true := rfl
  rw [ofLiteral?, if_pos hinteger]
  by_cases hneg : i < 0
  · have habs : -(i.natAbs : Int) = i := by omega
    have hwhole : ¬ (i.natAbs = 0) := by omega
    simp only [Literal.ofInt, hneg, decide_true, if_true, beq_iff_eq, hwhole, if_false, habs,
      ofInt?_eq_some h, Option.some_or]
  · have habs : (i.natAbs : Int) = i := by omega
    simp only [Literal.ofInt, hneg, decide_false, Bool.false_eq_true, if_false, habs,
      ofInt?_eq_some h, Option.some_or]

end Number
end Json
end FleetBridge
