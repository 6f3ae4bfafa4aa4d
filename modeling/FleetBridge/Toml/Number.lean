import FleetBridge.Decimal.Scaling
import FleetBridge.Text.Hex

/-!
# Numbers in TOML

Whole numbers of 64 bits with sign, in decimal with an optional sign or with the
base named in front, and decimals with a fraction or an exponent.  A single
underscore may stand between two digits.
-/

namespace FleetBridge
namespace Toml

/-- The characters of a group of digits without the underscores between them. -/
def ungrouped? (isDigit : Char → Bool) : List Char → Option (List Char)
  | [] => none
  | [c] => if isDigit c then some [c] else none
  | c :: '_' :: rest =>
      if isDigit c then (ungrouped? isDigit rest).map (c :: ·) else none
  | c :: rest => if isDigit c then (ungrouped? isDigit rest).map (c :: ·) else none

def digits? (s : List Char) : Option (List (Fin 10)) := do
  let cs ← ungrouped? Decimal.isDigit s
  return (Decimal.spanDigits cs).1

/-- The digits of a decimal number in front of any point, without a zero too many. -/
def wholeDigits? (s : List Char) : Option (List (Fin 10)) :=
  match s with
  | ['0'] => some [Decimal.zero]
  | '0' :: _ => none
  | _ => digits? s

def sign : List Char → Bool × List Char
  | '-' :: rest => (true, rest)
  | '+' :: rest => (false, rest)
  | s => (false, s)

/-- The magnitudes below this one have a word of 64 bits with either sign. -/
def signBit : Nat := 0x8000000000000000

def basedInteger? (base : Nat) (s : List Char) : Option Int := do
  let value? := fun c => (Text.hexValue? c).filter (· < base)
  let cs ← ungrouped? (fun c => (value? c).isSome) s
  let n := cs.foldl (fun n c => n * base + (value? c).getD 0) 0
  if n < signBit then some n else none

def integer? (s : List Char) : Option Int :=
  match s with
  | '0' :: 'x' :: rest => basedInteger? 16 rest
  | '0' :: 'o' :: rest => basedInteger? 8 rest
  | '0' :: 'b' :: rest => basedInteger? 2 rest
  | _ => do
      let (negative, body) := sign s
      let n := Decimal.value (← wholeDigits? body)
      if negative then
        if n ≤ signBit then some (-n) else none
      else if n < signBit then some n else none

def isExponentMark (c : Char) : Bool :=
  c == 'e' || c == 'E'

def exponent? (s : List Char) : Option Int := do
  let (negative, body) := sign s
  let n : Int := Decimal.value (← digits? body)
  return if negative then -n else n

def decimal? (s : List Char) : Option Float := do
  let whole ← wholeDigits? (s.takeWhile (fun c => c != '.' && !isExponentMark c))
  let rest := s.dropWhile (fun c => c != '.' && !isExponentMark c)
  let body := rest.takeWhile (fun c => !isExponentMark c)
  let exponent ←
    match rest.dropWhile (fun c => !isExponentMark c) with
    | [] => some 0
    | _ :: tail => exponent? tail
  match body with
  | '.' :: part => do
      let part ← digits? part
      return Decimal.nearest (Decimal.value (whole ++ part)) (exponent - part.length)
  | _ => if rest.isEmpty then none else some (Decimal.nearest (Decimal.value whole) exponent)

/-- A number that need not be whole.  One too large to be finite is refused, unless
it is negative. -/
def float? (s : List Char) : Option Float :=
  let (negative, body) := sign s
  if body == "inf".toList then some (if negative then -(1.0 / 0.0) else 1.0 / 0.0)
  else if body == "nan".toList then some (0.0 / 0.0)
  else
    match decimal? body with
    | none => none
    | some x => if negative then some (-x) else if x.isInf then none else some x

end Toml
end FleetBridge
