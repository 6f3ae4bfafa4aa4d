/-!
# Letters without case

Only the letters from A to Z have a small counterpart here.
-/

namespace FleetBridge
namespace Text

def lowerChar (c : Char) : Char :=
  if 'A' ≤ c ∧ c ≤ 'Z' then Char.ofNat (c.toNat + 32) else c

def lower (s : String) : String :=
  String.ofList (s.toList.map lowerChar)

end Text
end FleetBridge
