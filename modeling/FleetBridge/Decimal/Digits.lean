/-!
# Decimal digits

Digits as a list, most significant first, and as characters.
-/

namespace FleetBridge
namespace Decimal

/-- The decimal digits of a number; zero has one. -/
def digits (n : Nat) : List (Fin 10) :=
  let last : Fin 10 := Fin.ofNat 10 n
  if n < 10 then [last] else digits (n / 10) ++ [last]

def zero : Fin 10 :=
  Fin.ofNat 10 0

def value (ds : List (Fin 10)) : Nat :=
  ds.foldl (fun n d => n * 10 + d.val) 0

def digitChar (d : Fin 10) : Char :=
  Char.ofNat ('0'.toNat + d.val)

def digitValue? (c : Char) : Option (Fin 10) :=
  if '0' ≤ c ∧ c ≤ '9' then some (Fin.ofNat 10 (c.toNat - '0'.toNat)) else none

def isDigit (c : Char) : Bool :=
  (digitValue? c).isSome

def chars (ds : List (Fin 10)) : List Char :=
  ds.map digitChar

def spanDigits : List Char → List (Fin 10) × List Char
  | [] => ([], [])
  | c :: rest =>
      match digitValue? c with
      | some d => (d :: (spanDigits rest).1, (spanDigits rest).2)
      | none => ([], c :: rest)

def text (n : Nat) : String :=
  String.ofList (chars (digits n))

def intText (i : Int) : String :=
  if i < 0 then "-" ++ text i.natAbs else text i.natAbs

/-- A number as text of at least `width` digits, filled up with zeros. -/
def padded (width n : Nat) : List Char :=
  let cs := chars (digits n)
  List.replicate (width - cs.length) '0' ++ cs

/-- A number written with digits only, behind an optional plus sign. -/
def natOfText? (s : String) : Option Nat :=
  let body :=
    match s.toList with
    | '+' :: rest => rest
    | cs => cs
  match spanDigits body with
  | ([], _) => none
  | (ds, []) => some (value ds)
  | _ => none

theorem digits_of_lt {n : Nat} (h : n < 10) : digits n = [Fin.ofNat 10 n] := by
  rw [digits]
  simp [h]

theorem digits_of_ge {n : Nat} (h : 10 ≤ n) :
    digits n = digits (n / 10) ++ [Fin.ofNat 10 n] := by
  rw [digits]
  simp [Nat.not_lt.mpr h]

theorem value_append_singleton (ds : List (Fin 10)) (d : Fin 10) :
    value (ds ++ [d]) = value ds * 10 + d.val := by
  simp [value]

theorem value_digits (n : Nat) : value (digits n) = n := by
  induction n using Nat.strongRecOn with
  | _ n ih =>
    by_cases h : n < 10
    · rw [digits_of_lt h]
      simp [value, Nat.mod_eq_of_lt h]
    · rw [digits_of_ge (Nat.not_lt.mp h), value_append_singleton,
        ih (n / 10) (by omega)]
      simp
      omega

theorem digitValue?_digitChar (d : Fin 10) : digitValue? (digitChar d) = some d := by
  revert d
  decide

theorem spanDigits_chars (ds : List (Fin 10)) (rest : List Char)
    (h : ∀ c, rest.head? = some c → digitValue? c = none) :
    spanDigits (chars ds ++ rest) = (ds, rest) := by
  induction ds with
  | nil =>
      cases rest with
      | nil => rfl
      | cons c rest => simp [chars, spanDigits, h c rfl]
  | cons d ds ih =>
      have ih' : spanDigits (List.map digitChar ds ++ rest) = (ds, rest) := ih
      simp [chars, spanDigits, digitValue?_digitChar, ih']

end Decimal
end FleetBridge
