import FleetBridge.Time.Instant
import FleetBridge.Decimal.Digits
import FleetBridge.Text.Blank

/-!
# Reading time stamps

Two grammars are read.  The strict one has fields of fixed width, a four-digit
year and an offset of the form `Z` or `+hh:mm`.  The lenient one lets blanks
stand between fields, lets fields be shorter, takes signed years of any length,
and takes `UTC` or an offset whose hours and minutes are not parted by a colon.
Both take a leap second.
-/

namespace FleetBridge
namespace Time
namespace Reading

/-- At least `least` and at most `most` digits at the front. -/
def number? (least most : Nat) (s : List Char) : Option (Nat × List Char) :=
  let ds := (Decimal.spanDigits (s.take most)).1
  if ds.length < least then none else some (Decimal.value ds, s.drop ds.length)

def longNumber? (s : List Char) : Option (Nat × List Char) :=
  match Decimal.spanDigits s with
  | ([], _) => none
  | (ds, rest) => some (Decimal.value ds, rest)

def mark? (c : Char) : List Char → Option (List Char)
  | d :: rest => if d == c then some rest else none
  | [] => none

def separator? : List Char → Option (List Char)
  | 'T' :: rest => some rest
  | 't' :: rest => some rest
  | ' ' :: rest => some rest
  | _ => none

/-- The nanoseconds of an optional fraction; digits after the ninth are dropped. -/
def fraction? : List Char → Option (Nat × List Char)
  | '.' :: rest =>
      match Decimal.spanDigits rest with
      | ([], _) => none
      | (ds, rest) =>
          let kept := ds.take 9
          some (Decimal.value kept * Nat.pow 10 (9 - kept.length), rest)
  | s => some (0, s)

/-- Two digits of which the first is at most five. -/
def offsetMinutes? : List Char → Option (Nat × List Char)
  | a :: b :: rest => do
      let tens ← Decimal.digitValue? a
      let ones ← Decimal.digitValue? b
      if tens.val ≤ 5 then some (tens.val * 10 + ones.val, rest) else none
  | _ => none

def sign? : List Char → Option (Int × List Char)
  | '+' :: rest => some (1, rest)
  | '-' :: rest => some (-1, rest)
  | '\u2212' :: rest => some (-1, rest)
  | _ => none

def strictOffset? (s : List Char) : Option (Int × List Char) :=
  match s with
  | 'Z' :: rest => some (0, rest)
  | 'z' :: rest => some (0, rest)
  | s => do
      let (sign, s) ← sign? s
      let (hours, s) ← number? 2 2 s
      let s ← mark? ':' s
      let (minutes, s) ← offsetMinutes? s
      return (sign * (hours * 3600 + minutes * 60 : Nat), s)

def isColonOrBlank (c : Char) : Bool :=
  c == ':' || Text.isBlank c

def utcWord? : List Char → Option (List Char)
  | u :: t :: c :: rest =>
      if (u == 'U' || u == 'u') && (t == 'T' || t == 't') && (c == 'C' || c == 'c') then
        some rest
      else none
  | _ => none

def lenientOffset? (s : List Char) : Option (Int × List Char) :=
  match utcWord? s with
  | some rest => some (0, rest)
  | none =>
      match s with
      | 'Z' :: rest => some (0, rest)
      | 'z' :: rest => some (0, rest)
      | s => do
          let (sign, s) ← sign? s
          let (hours, s) ← number? 2 2 s
          let s := s.dropWhile isColonOrBlank
          let (minutes, s) ← offsetMinutes? s
          return (sign * (hours * 3600 + minutes * 60 : Nat), s)

def lenientYear? : List Char → Option (Int × List Char)
  | '-' :: rest => (longNumber? rest).map (fun (n, rest) => (-(n : Int), rest))
  | '+' :: rest => (longNumber? rest).map (fun (n, rest) => ((n : Int), rest))
  | s => (number? 1 4 s).map (fun (n, rest) => ((n : Int), rest))

def yearInRange (year : Int) : Bool :=
  -262143 ≤ year && year ≤ 262142

def instant? (date : Date) (hour minute second nanos : Nat) (offset : Int) :
    Option Instant :=
  if yearInRange date.year && date.isValid && hour ≤ 23 && minute ≤ 59 && second ≤ 60 &&
      offset.natAbs < 86400 then
    let (second, nanos) := if second == 60 then (59, nanos + 1000000000) else (second, nanos)
    let onSite : Int := date.toDays * 86400 + (hour * 3600 + minute * 60 + second : Nat)
    let instant : Instant := { seconds := onSite - offset, nanos }
    if yearInRange instant.date.year then some instant else none
  else none

end Reading

namespace Instant

open Reading

def ofStamp? (text : String) : Option Instant := do
  let (year, s) ← number? 4 4 text.toList
  let s ← mark? '-' s
  let (month, s) ← number? 2 2 s
  let s ← mark? '-' s
  let (day, s) ← number? 2 2 s
  let s ← separator? s
  let (hour, s) ← number? 2 2 s
  let s ← mark? ':' s
  let (minute, s) ← number? 2 2 s
  let s ← mark? ':' s
  let (second, s) ← number? 2 2 s
  let (nanos, s) ← fraction? s
  let (offset, s) ← strictOffset? s
  if s.isEmpty then instant? ⟨year, month, day⟩ hour minute second nanos offset else none

def ofLenientStamp? (text : String) : Option Instant := do
  let (year, s) ← lenientYear? (Text.trimFront text.toList)
  let s ← mark? '-' (Text.trimFront s)
  let (month, s) ← number? 1 2 (Text.trimFront s)
  let s ← mark? '-' (Text.trimFront s)
  let (day, s) ← number? 1 2 (Text.trimFront s)
  let s ← separator? s
  let (hour, s) ← number? 1 2 (Text.trimFront s)
  let s ← mark? ':' (Text.trimFront s)
  let (minute, s) ← number? 1 2 (Text.trimFront s)
  let s ← mark? ':' (Text.trimFront s)
  let (second, s) ← number? 1 2 (Text.trimFront s)
  let (nanos, s) ← fraction? s
  let (offset, s) ← lenientOffset? (Text.trimFront s)
  if (Text.trimFront s).isEmpty then
    instant? ⟨year, month, day⟩ hour minute second nanos offset
  else none

end Instant
end Time
end FleetBridge
