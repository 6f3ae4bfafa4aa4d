import FleetBridge.Time.Instant
import FleetBridge.Decimal.Digits

/-!
# Time stamps

Instants as text: date and time of day in UTC, with a fraction of the length
that the place asks for.  Years outside 0000 to 9999 carry a sign.
-/

namespace FleetBridge
namespace Time

inductive Precision where
  /-- None, three, six or nine: the fewest that are exact. -/
  | fewest
  /-- Always six; what is finer is cut off. -/
  | micros
  deriving DecidableEq

namespace Precision

def fractionText : Precision → Nat → List Char
  | fewest, nanos =>
      if nanos == 0 then []
      else if nanos % 1000000 == 0 then '.' :: Decimal.padded 3 (nanos / 1000000)
      else if nanos % 1000 == 0 then '.' :: Decimal.padded 6 (nanos / 1000)
      else '.' :: Decimal.padded 9 nanos
  | micros, nanos => '.' :: Decimal.padded 6 (nanos / 1000)

end Precision

def yearText (year : Int) : List Char :=
  let ds := Decimal.padded 4 year.natAbs
  if year < 0 then '-' :: ds
  else if year ≤ 9999 then ds
  else '+' :: ds

namespace Date

def text (d : Date) : List Char :=
  yearText d.year ++ '-' :: Decimal.padded 2 d.month ++ '-' :: Decimal.padded 2 d.day

end Date

namespace Instant

def timeText (i : Instant) : List Char :=
  Decimal.padded 2 i.hour ++ ':' :: Decimal.padded 2 i.minute ++
    ':' :: Decimal.padded 2 i.second

def stamp (precision : Precision) (i : Instant) : String :=
  String.ofList (i.date.text ++ 'T' :: i.timeText ++
    precision.fractionText i.fraction ++ ['Z'])

def display (i : Instant) : String :=
  String.ofList (i.date.text ++ ' ' :: i.timeText)

end Instant
end Time
end FleetBridge
