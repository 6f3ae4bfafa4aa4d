import FleetBridge.Decimal.Shortest

/-!
# Number literals

A number as it is spelled: a sign, whole digits without zeros in front, a
fraction and an exponent.  `Literal.chars` writes the one spelling in which the
exponent mark is small and the exponent has a sign and no zeros in front.
-/

namespace FleetBridge
namespace Json

structure Literal where
  negative : Bool
  whole : Nat
  /-- The digits behind the point; without any there is no point. -/
  fraction : List (Fin 10)
  exponent : Option Int
  deriving DecidableEq

namespace Literal

def ofInt (i : Int) : Literal :=
  { negative := i < 0, whole := i.natAbs, fraction := [], exponent := none }

def isInteger (l : Literal) : Bool :=
  l.fraction.isEmpty && l.exponent.isNone

def isNumberChar (c : Char) : Bool :=
  Decimal.isDigit c || c == '-' || c == '+' || c == '.' || c == 'e' || c == 'E'

def exponentChars (e : Int) : List Char :=
  'e' :: (if e < 0 then '-' else '+') :: Decimal.chars (Decimal.digits e.natAbs)

def chars (l : Literal) : List Char :=
  (if l.negative then ['-'] else []) ++
    Decimal.chars (Decimal.digits l.whole) ++
    (if l.fraction.isEmpty then [] else '.' :: Decimal.chars l.fraction) ++
    (l.exponent.map exponentChars).getD []

/-- Whole digits: a zero stands alone. -/
def wholeOf? : List (Fin 10) → Option Nat
  | [] => none
  | [d] => some d.val
  | d :: ds => if d.val == 0 then none else some (Decimal.value (d :: ds))

def fraction? : List Char → Option (List (Fin 10) × List Char)
  | '.' :: rest =>
      match Decimal.spanDigits rest with
      | ([], _) => none
      | (ds, rest) => some (ds, rest)
  | rest => some ([], rest)

def exponentOf? (negative : Bool) (s : List Char) : Option Int :=
  match Decimal.spanDigits s with
  | ([], _) => none
  | (ds, []) =>
      let n : Int := Decimal.value ds
      some (if negative then -n else n)
  | _ => none

def exponent? : List Char → Option (Option Int)
  | [] => some none
  | c :: rest =>
      if c == 'e' || c == 'E' then
        match rest with
        | '-' :: rest => (exponentOf? true rest).map some
        | '+' :: rest => (exponentOf? false rest).map some
        | rest => (exponentOf? false rest).map some
      else none

def ofChars? (s : List Char) : Option Literal := do
  let (negative, s) :=
    match s with
    | '-' :: rest => (true, rest)
    | s => (false, s)
  let (ds, s) := Decimal.spanDigits s
  let whole ← wholeOf? ds
  let (fraction, s) ← fraction? s
  let exponent ← exponent? s
  return { negative, whole, fraction, exponent }

/-- The digits of a double in the layout of this format: positional from `1e-5`
up to below `1e16`, always with a decimal there, and otherwise one digit before
the point. -/
def ofScientific (negative : Bool) (s : Decimal.Scientific) : Literal :=
  let ds := Decimal.digits s.significand
  let point : Int := ds.length + s.exponent
  if s.significand == 0 then
    { negative, whole := 0, fraction := [Decimal.zero], exponent := none }
  else if 0 ≤ s.exponent && point ≤ 16 then
    { negative
      whole := s.significand * Nat.pow 10 s.exponent.toNat
      fraction := [Decimal.zero]
      exponent := none }
  else if 0 < point && point ≤ 16 then
    { negative
      whole := Decimal.value (ds.take point.toNat)
      fraction := ds.drop point.toNat
      exponent := none }
  else if -5 < point && point ≤ 0 then
    { negative
      whole := 0
      fraction := List.replicate (-point).toNat Decimal.zero ++ ds
      exponent := none }
  else
    { negative
      whole := Decimal.value (ds.take 1)
      fraction := ds.drop 1
      exponent := some (point - 1) }

def ofFloat (x : Float) : Literal :=
  ofScientific (Decimal.isNegative x) (Decimal.shortest .even x)

example : (ofFloat 100).chars = "100.0".toList := by decide +kernel

example : (ofFloat 1e-6).chars = "1e-6".toList := by decide +kernel

example : (ofFloat 1e16).chars = "1e+16".toList := by decide +kernel

end Literal
end Json
end FleetBridge
