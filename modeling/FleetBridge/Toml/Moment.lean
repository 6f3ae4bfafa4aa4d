import FleetBridge.Decimal.Digits
import FleetBridge.Time.Calendar

/-!
# Dates and times in TOML

A date, a time of day, or a date with a time behind it, which may name its offset
from UTC.  Only their forms and ranges matter here.
-/

namespace FleetBridge
namespace Toml

def fixedDigits? (count : Nat) (s : List Char) : Option (Nat × List Char) :=
  let (ds, _) := Decimal.spanDigits (s.take count)
  if ds.length == count then some (Decimal.value ds, s.drop count) else none

def afterDate? (s : List Char) : Option (List Char) := do
  let (year, s) ← fixedDigits? 4 s
  let s ← ['-'].isPrefixOf? s
  let (month, s) ← fixedDigits? 2 s
  let s ← ['-'].isPrefixOf? s
  let (day, s) ← fixedDigits? 2 s
  let date : Time.Date := { year, month, day }
  if date.isValid then some s else none

def afterFraction? : List Char → Option (List Char)
  | '.' :: s =>
      match Decimal.spanDigits s with
      | ([], _) => none
      | (_, rest) => some rest
  | s => some s

def afterTime? (s : List Char) : Option (List Char) := do
  let (hour, s) ← fixedDigits? 2 s
  let s ← [':'].isPrefixOf? s
  let (minute, s) ← fixedDigits? 2 s
  let s ← [':'].isPrefixOf? s
  let (second, s) ← fixedDigits? 2 s
  if hour ≤ 23 && minute ≤ 59 && second ≤ 60 then afterFraction? s else none

/-- Whether a text is an offset from UTC, or nothing at all. -/
def isOffset (s : List Char) : Bool :=
  match s with
  | [] => true
  | ['Z'] => true
  | ['z'] => true
  | mark :: s =>
      (mark == '+' || mark == '-') &&
        (match fixedDigits? 2 s with
        | some (hour, ':' :: s) =>
            match fixedDigits? 2 s with
            | some (minute, []) => hour ≤ 23 && minute ≤ 59
            | _ => false
        | _ => false)

def isTimeWithOffset (s : List Char) : Bool :=
  match afterTime? s with
  | some rest => isOffset rest
  | none => false

def isMoment (s : List Char) : Bool :=
  match afterDate? s with
  | some [] => true
  | some (mark :: rest) => (mark == 'T' || mark == 't') && isTimeWithOffset rest
  | none =>
      match afterTime? s with
      | some [] => true
      | _ => false

end Toml
end FleetBridge
