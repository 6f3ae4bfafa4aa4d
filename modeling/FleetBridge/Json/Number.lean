import FleetBridge.Json.Literal
import FleetBridge.Decimal.Scaling

/-!
# Numbers

A number is an integer of 64 bits, signed or unsigned, or a finite double.  A
spelling without fraction and exponent is an integer if it is in range; every
other one is a double, negative zero among them.  A spelling that is too large
for a double stands for no number.
-/

namespace FleetBridge
namespace Json

/-- The integers of 64 bits. -/
def IntegerRange (i : Int) : Prop :=
  -0x8000000000000000 ≤ i ∧ i < 0x10000000000000000

instance (i : Int) : Decidable (IntegerRange i) :=
  inferInstanceAs (Decidable (_ ∧ _))

inductive Number where
  | integer (value : Int) (inRange : IntegerRange value)
  | real (value : Float) (finite : value.isFinite = true)
  deriving DecidableEq

namespace Number

def ofFloat? (x : Float) : Option Number :=
  if h : x.isFinite = true then some (real x h) else none

def ofInt? (i : Int) : Option Number :=
  if h : IntegerRange i then some (integer i h) else none

def real? (l : Literal) : Option Number := do
  let x ← Decimal.scaled? (Decimal.digits l.whole) l.fraction (l.exponent.getD 0)
  ofFloat? (if l.negative then -x else x)

def ofLiteral? (l : Literal) : Option Number :=
  if l.isInteger then
    if l.negative then
      if l.whole == 0 then real? l
      else (ofInt? (-(l.whole : Int))).or (real? l)
    else (ofInt? l.whole).or (real? l)
  else real? l

def literal : Number → Literal
  | integer i _ => Literal.ofInt i
  | real x _ => Literal.ofFloat x

def toFloat : Number → Float
  | integer i _ => Float.ofInt i
  | real x _ => x

def toInt? : Number → Option Int
  | integer i _ => some i
  | real _ _ => none

theorem ofInt?_eq_some {i : Int} (h : IntegerRange i) :
    ofInt? i = some (integer i h) := by
  simp [ofInt?, h]

end Number
end Json
end FleetBridge
