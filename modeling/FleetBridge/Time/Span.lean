import FleetBridge.Decimal.Digits

/-!
# Spans of time as text

A span is a number of nanoseconds.  It is written in the largest of the units
s, ms, µs and ns that it fills at least once, with the decimals that are needed.
-/

namespace FleetBridge
namespace Time
namespace Span

def nanosPerMilli : Nat := 1000000

def nanosPerSecond : Nat := 1000000000

def ofMillis (n : Nat) : Nat := n * nanosPerMilli

def ofSeconds (n : Nat) : Nat := n * nanosPerSecond

/-- `whole.part` where `part` counts units of `10 ^ -places`, without zeros at the
end. -/
def withFraction (whole part places : Nat) : List Char :=
  let ds := Decimal.padded places part
  let kept := (ds.reverse.dropWhile (· == '0')).reverse
  Decimal.chars (Decimal.digits whole) ++ (if part == 0 then [] else '.' :: kept)

def text (nanos : Nat) : String :=
  String.ofList <|
    if nanosPerSecond ≤ nanos then
      withFraction (nanos / nanosPerSecond) (nanos % nanosPerSecond) 9 ++ ['s']
    else if nanosPerMilli ≤ nanos then
      withFraction (nanos / nanosPerMilli) (nanos % nanosPerMilli) 6 ++ ['m', 's']
    else if 1000 ≤ nanos then
      withFraction (nanos / 1000) (nanos % 1000) 3 ++ ['µ', 's']
    else
      withFraction nanos 0 0 ++ ['n', 's']

end Span
end Time
end FleetBridge
