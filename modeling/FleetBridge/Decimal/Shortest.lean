import FleetBridge.Decimal.Digits

/-!
# The shortest digits of a double

A finite double is an integer times a power of two.  The decimals that read back
as that double are those in an interval around it.  On each decimal grid, from
one digit to seventeen, the two neighbours of the double are tried; the first
grid with a neighbour inside the interval gives the digits, and of two such
neighbours the nearer one is taken.  Who asks says which one it is when both are
equally near: data takes the even one, plain text the upper one.
-/

namespace FleetBridge
namespace Decimal

/-- The magnitude of a finite double: `mantissa * 2 ^ exponent`. -/
structure Binary where
  mantissa : Nat
  exponent : Int
  /-- Whether the next double below is only half as far as the one above. -/
  atBoundary : Bool
  deriving DecidableEq

namespace Binary

def ofBits (bits : UInt64) : Binary :=
  let field : Nat := bits.toNat / Nat.pow 2 52 % Nat.pow 2 11
  let fraction := bits.toNat % Nat.pow 2 52
  if field == 0 then
    { mantissa := fraction, exponent := -1074, atBoundary := false }
  else
    { mantissa := fraction + Nat.pow 2 52
      exponent := Int.ofNat field - 1075
      atBoundary := fraction == 0 && field != 1 }

end Binary

structure Scientific where
  significand : Nat
  exponent : Int
  deriving DecidableEq

namespace Scientific

/-- A point of the grid of `count` digits, where one digit more ends in a zero. -/
def onGrid (count significand : Nat) (exponent : Int) : Scientific :=
  if significand == Nat.pow 10 count then ⟨1, exponent + count⟩ else ⟨significand, exponent⟩

end Scientific

/-- Which of two neighbours is taken that are equally near. -/
inductive Tie where
  | even
  | upper
  deriving DecidableEq

namespace Tie

def takesBelow (t : Tie) (below : Nat) : Bool :=
  match t with
  | .even => below % 2 == 0
  | .upper => false

end Tie

namespace Shortest

/-- The value and the ends of its interval, in units of `1 / unit`. -/
structure Interval where
  unit : Nat
  low : Nat
  middle : Nat
  high : Nat
  /-- Whether the ends belong to the interval. -/
  closed : Bool

def Interval.ofBinary (b : Binary) : Interval :=
  let scale := Nat.pow 2 b.exponent.toNat
  { unit := 4 * Nat.pow 2 (-b.exponent).toNat
    low := (4 * b.mantissa - (if b.atBoundary then 1 else 2)) * scale
    middle := 4 * b.mantissa * scale
    high := (4 * b.mantissa + 2) * scale
    closed := b.mantissa % 2 == 0 }

/-- The number of digits before the point, negative or zero for a fraction that
begins with that many zeros less. -/
def Interval.magnitude (i : Interval) : Int :=
  if i.unit ≤ i.middle then
    (digits (i.middle / i.unit)).length
  else
    1 - ((digits ((i.unit + i.middle - 1) / i.middle - 1)).length : Int)

def Interval.sides (i : Interval) (n : Nat) (exponent : Int) (bound : Nat) : Nat × Nat :=
  (n * Nat.pow 10 exponent.toNat * i.unit, bound * Nat.pow 10 (-exponent).toNat)

def Interval.contains (i : Interval) (n : Nat) (exponent : Int) : Bool :=
  let (atLow, low) := i.sides n exponent i.low
  let (atHigh, high) := i.sides n exponent i.high
  if i.closed then low ≤ atLow && atHigh ≤ high else low < atLow && atHigh < high

def Interval.onGrid? (i : Interval) (tie : Tie) (count : Nat) : Option Scientific :=
  let exponent := i.magnitude - count
  let below := i.middle * Nat.pow 10 (-exponent).toNat / (i.unit * Nat.pow 10 exponent.toNat)
  let (atBelow, middle) := i.sides below exponent i.middle
  let (atAbove, _) := i.sides (below + 1) exponent i.middle
  let nearerBelow :=
    middle - atBelow < atAbove - middle ||
      (middle - atBelow == atAbove - middle && tie.takesBelow below)
  match i.contains below exponent, i.contains (below + 1) exponent with
  | true, true =>
      some (Scientific.onGrid count (if nearerBelow then below else below + 1) exponent)
  | true, false => some (Scientific.onGrid count below exponent)
  | false, true => some (Scientific.onGrid count (below + 1) exponent)
  | false, false => none

end Shortest

/-- The shortest decimal that reads back as the finite double `x`, without its sign. -/
def shortest (tie : Tie) (x : Float) : Scientific :=
  let b := Binary.ofBits x.toBits
  if b.mantissa == 0 then ⟨0, 0⟩
  else
    let i := Shortest.Interval.ofBinary b
    ((List.range 17).findSome? (fun n => i.onGrid? tie (n + 1))).getD ⟨0, 0⟩

def isNegative (x : Float) : Bool :=
  Nat.pow 2 63 ≤ x.toBits.toNat

/-- A double as text without exponent: only the digits that are needed, and no
point behind a whole number. -/
def plainText (x : Float) : String :=
  if x.isNaN then "NaN"
  else
    let sign := if isNegative x then ['-'] else []
    if x.isInf then String.ofList (sign ++ "inf".toList)
    else
      let s := shortest .upper x
      let ds := digits s.significand
      let places := (-s.exponent).toNat
      let whole := ds.take (ds.length - places)
      let part := ds.drop (ds.length - places)
      let zeros := List.replicate (places - ds.length) '0'
      String.ofList <|
        sign ++
          (if whole.isEmpty then ['0'] else chars whole) ++
          List.replicate s.exponent.toNat '0' ++
          (if places == 0 then [] else '.' :: zeros ++ chars part)

end Decimal
end FleetBridge
