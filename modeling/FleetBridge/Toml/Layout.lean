import FleetBridge.Toml.Page

/-!
# Sections

A section of settings is read from a table, where unknown members are passed over,
or from an array of its fields in the order of declaration, where fields at the end
may be missing if they have a default and further items are passed over.  A moment
counts as a table of which no member is known.

A layout lists the fields of a section once, for writing and for both ways of
reading.
-/

namespace FleetBridge
namespace Toml

structure Codec (α : Type) where
  write : α → Scalar
  read? : Value → Option α

namespace Codec

def text : Codec String where
  write := .text
  read?
    | .text s => some s
    | _ => none

def natural (bound : Nat) (toNat : α → Nat) (ofNat : Nat → α) : Codec α where
  write a := .integer (toNat a)
  read?
    | .integer i => if 0 ≤ i && i < bound then some (ofNat i.toNat) else none
    | _ => none

def uint16 : Codec UInt16 :=
  natural UInt16.size UInt16.toNat UInt16.ofNat

def uint64 : Codec UInt64 :=
  natural UInt64.size UInt64.toNat UInt64.ofNat

def isVoid : Value → Bool
  | .array [] => true
  | .table _ [] => true
  | _ => false

/-- One of several words.  It may also stand as the only member of a table, with
nothing in it. -/
def word (all : List α) (name : α → String) : Codec α where
  write a := .text (name a)
  read?
    | .text s => all.find? (fun a => name a == s)
    | .table _ [(s, v)] => if isVoid v then all.find? (fun a => name a == s) else none
    | _ => none

end Codec

structure Field (α : Type) where
  name : String
  write : α → Option Scalar
  read? : Value → Option α
  /-- What stands in for a field that is missing. -/
  absent : Option α

namespace Field

def required (name : String) (c : Codec α) : Field α :=
  { name, write := fun a => some (c.write a), read? := c.read?, absent := none }

def defaulted (name : String) (c : Codec α) (default : α) : Field α :=
  { name
    write := fun a => some (c.write a)
    read? := c.read?
    absent := some default }

def optional (name : String) (c : Codec α) : Field (Option α) :=
  { name
    write := Option.map c.write
    read? := fun v => (c.read? v).map some
    absent := some none }

def ofMember? (f : Field α) (ms : Members) : Option α :=
  match ms.lookup f.name with
  | some v => f.read? v
  | none => f.absent

end Field

/-- The fields of a section; its values are nested pairs. -/
inductive Layout : Type → Type 1 where
  | done : Layout Unit
  | field {α β : Type} (f : Field α) (rest : Layout β) : Layout (α × β)

namespace Layout

def entries : Layout ρ → ρ → Entries
  | done, _ => []
  | field f rest, (a, values) =>
      match f.write a with
      | some s => (f.name, s) :: entries rest values
      | none => entries rest values

def ofMembers? (ms : Members) : Layout ρ → Option ρ
  | done => some ()
  | field f rest => do
      let a ← f.ofMember? ms
      let values ← ofMembers? ms rest
      return (a, values)

def ofItems? : Layout ρ → List Value → Option ρ
  | done, _ => some ()
  | field f rest, [] => do
      let a ← f.absent
      let values ← ofItems? rest []
      return (a, values)
  | field f rest, v :: vs => do
      let a ← f.read? v
      let values ← ofItems? rest vs
      return (a, values)

def ofValue? (l : Layout ρ) : Value → Option ρ
  | .table _ ms => l.ofMembers? ms
  | .array items => l.ofItems? items
  | .tables items => l.ofItems? (items.map (.table .header))
  | .moment _ => l.ofMembers? []
  | _ => none

end Layout
end Toml
end FleetBridge
