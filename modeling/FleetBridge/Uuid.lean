import FleetBridge.Text.Hex

/-!
# Universally unique identifiers

A 128-bit number, written as 32 lower-case hexadecimal digits in groups of
8, 4, 4, 4 and 12.  Reading also takes capitals, the digits without hyphens, the
grouped form in braces and the grouped form as a URN, its prefix in either case.

`Supply` is the source of fresh identifiers: a stream fixed from outside and the
count of those already drawn.
-/

namespace FleetBridge

structure Uuid where
  value : BitVec 128
  deriving DecidableEq

namespace Uuid

/-- Thirty-two digits with hyphens after the eighth, twelfth, sixteenth and
twentieth. -/
def group (digits : List Char) : List Char :=
  digits.take 8 ++ '-' :: (digits.drop 8).take 4 ++ '-' :: (digits.drop 12).take 4 ++
    '-' :: (digits.drop 16).take 4 ++ '-' :: digits.drop 20

def ungroup? (s : List Char) : Option (List Char) :=
  let digits := s.take 8 ++ (s.drop 9).take 4 ++ (s.drop 14).take 4 ++
    (s.drop 19).take 4 ++ s.drop 24
  if s.length == 36 && s == group digits then some digits else none

def text (u : Uuid) : String :=
  String.ofList (group (Text.hexDigits 32 u.value.toNat))

instance : ToString Uuid where
  toString := text

def digits? (s : List Char) : Option (List Char) :=
  if s.length == 32 then some s
  else if s.length == 36 then ungroup? s
  else if s.length == 38 then
    match s with
    | '{' :: rest =>
        if rest.getLast? == some '}' then ungroup? rest.dropLast else none
    | _ => none
  else if s.length == 45 then
    if (s.take 9).map Char.toLower == "urn:uuid:".toList then ungroup? (s.drop 9) else none
  else none

def parse? (s : String) : Option Uuid := do
  let digits ← digits? s.toList
  let n ← Text.ofHexDigits? digits
  return { value := BitVec.ofNat 128 n }

/-- Identifiers are drawn from `stream` one after the other. -/
structure Supply where
  stream : Nat → Uuid
  drawn : Nat

namespace Supply

def draw (s : Supply) : Uuid × Supply :=
  (s.stream s.drawn, { s with drawn := s.drawn + 1 })

/-- Identifiers of the random kind.  A seed fills all bits but the six that tell the
kind, and the last 62 bits count on from there. -/
def ofSeed (seed : Nat) : Supply :=
  let front := BitVec.ofNat 48 (seed >>> 74)
  let middle := BitVec.ofNat 12 (seed >>> 62)
  { stream := fun n =>
      { value :=
          front ++ BitVec.ofNat 4 4 ++ middle ++ BitVec.ofNat 2 2 ++
            BitVec.ofNat 62 (seed + n) }
    drawn := 0 }

end Supply

end Uuid
end FleetBridge
