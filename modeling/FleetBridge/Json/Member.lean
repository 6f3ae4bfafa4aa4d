import FleetBridge.Json.Codec

/-!
# Looking up members

Members of an object by name and kind.  A member that is null counts as absent,
and so does one of another kind.  Where something is needed in any case the
empty value stands in.
-/

namespace FleetBridge
namespace Json
namespace Member

def last? (name : String) : Term → Option Term
  | .object ms =>
      ((ms.filter (fun m => Symbol.text? m.1 == some name)).getLast?).map Prod.snd
  | _ => none

def value? (name : String) (t : Term) : Option Term :=
  (last? name t).bind (fun
    | .null => none
    | u => some u)

def text? (name : String) (t : Term) : Option String :=
  (value? name t).bind (Codec.text.read? 0)

def text (name : String) (t : Term) : String :=
  (text? name t).getD ""

def int? (name : String) (t : Term) : Option Int :=
  ((value? name t).bind Codec.number?).bind Number.toInt?

/-- A negative number counts as zero. -/
def nat? (name : String) (t : Term) : Option Nat :=
  (int? name t).map Int.toNat

def nat (name : String) (t : Term) : Nat :=
  (nat? name t).getD 0

/-- A number as a word; `fallback` stands in for it. -/
def word (name : String) (fallback : Nat) (t : Term) : UInt64 :=
  UInt64.ofNat ((nat? name t).getD fallback)

def flag (name : String) (t : Term) : Bool :=
  match value? name t with
  | some (.bool b) => b
  | _ => false

def items (name : String) (t : Term) : List Term :=
  match value? name t with
  | some (.array ts) => ts
  | _ => []

def texts (name : String) (t : Term) : List String :=
  (items name t).filterMap (Codec.text.read? 0)

def get? (c : Codec α) (name : String) (t : Term) : Option α :=
  (value? name t).bind (c.read? maxDepth)

def list (c : Codec α) (name : String) (t : Term) : List α :=
  (items name t).filterMap (c.read? maxDepth)

def values (name : String) (t : Term) : List (String × Value) :=
  (get? Codec.value.members name t).getD []

end Member
end Json
end FleetBridge
