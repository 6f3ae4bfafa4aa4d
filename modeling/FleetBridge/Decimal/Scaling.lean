import FleetBridge.Decimal.Digits
import FleetBridge.Text.Case

/-!
# Reading decimals as doubles

`scaled?` reads the digits of a number in one pass: as many leading digits as fit
a 64-bit word make the significand, and the double it rounds to is multiplied or
divided by a power of ten, at most `10 ^ 308` at a time.  The product is rounded
again, so the result can differ from the nearest double in the last place.  A
number too large for a double is refused.

`nearest?` reads a number as typed by a person, to the nearest double, and takes
the words for infinity and for what is not a number.
-/

namespace FleetBridge
namespace Decimal

def significandLimit : Nat := UInt64.size - 1

def fits (significand : Nat) (d : Fin 10) : Bool :=
  significand * 10 + d.val ≤ significandLimit

/-- The leading whole digits that fit, and the number of those that do not. -/
def gatherWhole : Nat → List (Fin 10) → Nat × Nat
  | significand, [] => (significand, 0)
  | significand, d :: ds =>
      if fits significand d then gatherWhole (significand * 10 + d.val) ds
      else (significand, ds.length + 1)

def gatherPart : Nat → List (Fin 10) → Nat × Nat
  | significand, [] => (significand, 0)
  | significand, d :: ds =>
      if fits significand d then
        let (s, n) := gatherPart (significand * 10 + d.val) ds
        (s, n + 1)
      else (significand, 0)

def powerOfTen (n : Nat) : Float :=
  Float.ofScientific 1 false n

/-- `x * 10 ^ exponent` in double arithmetic; nothing if that is too large. -/
def scale? (x : Float) (exponent : Int) : Option Float :=
  if exponent.natAbs ≤ 308 then
    if 0 ≤ exponent then
      let y := x * powerOfTen exponent.toNat
      if y.isInf then none else some y
    else some (x / powerOfTen exponent.natAbs)
  else if x == 0 then some x
  else if h : 0 ≤ exponent then none
  else scale? (x / powerOfTen 308) (exponent + 308)
termination_by exponent.natAbs
decreasing_by omega

def scaled? (whole part : List (Fin 10)) (exponent : Int) : Option Float :=
  let (significand, dropped) := gatherWhole 0 whole
  let (significand, places) := gatherPart significand part
  scale? significand.toUInt64.toFloat (exponent + dropped - places)

def nearest (significand : Nat) (exponent : Int) : Float :=
  let magnitude : Int := (digits significand).length + exponent
  if significand == 0 || magnitude < -400 then 0
  else if 400 < magnitude then 1.0 / 0.0
  else Float.ofScientific significand (exponent < 0) exponent.natAbs

namespace Typed

def exponent? : List Char → Option Int
  | [] => some 0
  | mark :: rest =>
      if Text.lowerChar mark == 'e' then
        let (negative, body) :=
          match rest with
          | '-' :: rest => (true, rest)
          | '+' :: rest => (false, rest)
          | rest => (false, rest)
        match spanDigits body with
        | ([], _) => none
        | (ds, []) => some (if negative then -(value ds : Int) else value ds)
        | _ => none
      else none

def magnitude? (s : List Char) : Option Float := do
  let (whole, rest) := spanDigits s
  let (part, rest) :=
    match rest with
    | '.' :: rest => spanDigits rest
    | rest => ([], rest)
  if whole.isEmpty && part.isEmpty then none
  else
    let exponent ← exponent? rest
    return nearest (value (whole ++ part)) (exponent - part.length)

end Typed

def nearest? (s : String) : Option Float := do
  let (negative, body) :=
    match s.toList with
    | '-' :: rest => (true, rest)
    | '+' :: rest => (false, rest)
    | cs => (false, cs)
  let word := String.ofList (body.map Text.lowerChar)
  let x ←
    if word == "inf" || word == "infinity" then some (1.0 / 0.0)
    else if word == "nan" then some (0.0 / 0.0)
    else Typed.magnitude? body
  return if negative then -x else x

end Decimal
end FleetBridge
