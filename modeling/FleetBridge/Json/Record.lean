import FleetBridge.Json.Codec

/-!
# Records

A record is written as an object with its fields in the order of declaration.
It is read from an object whose members come in any order, where unknown members
are passed over and no known one may occur twice, or from an array of its fields
in the order of declaration, where fields at the end may be missing if they have
a default.

A layout lists the fields of a record once, for writing and for both ways of
reading.
-/

namespace FleetBridge
namespace Json

structure Field (α : Type) where
  name : String
  codec : Codec α
  /-- What stands in for a member that an object lacks. -/
  absent : Option α
  /-- What stands in for a field that an array ends before. -/
  cutOff : Option α
  /-- Whether the member is written. -/
  isWritten : α → Bool

namespace Field

def required (name : String) (codec : Codec α) : Field α :=
  { name, codec, absent := none, cutOff := none, isWritten := fun _ => true }

/-- A field that is null where there is no value. -/
def nullable (name : String) (codec : Codec α) : Field (Option α) :=
  { name
    codec := codec.option
    absent := some none
    cutOff := none
    isWritten := fun _ => true }

/-- A field that is left out where there is no value. -/
def optional (name : String) (codec : Codec α) : Field (Option α) :=
  { name
    codec := codec.option
    absent := some none
    cutOff := some none
    isWritten := Option.isSome }

def defaulted (name : String) (codec : Codec α) (default : α) : Field α :=
  { name
    codec
    absent := some default
    cutOff := some default
    isWritten := fun _ => true }

end Field

/-- The fields of a record; its values are nested pairs. -/
inductive Layout : Type → Type 1 where
  | done : Layout Unit
  | field {α β : Type} (f : Field α) (rest : Layout β) : Layout (α × β)

namespace Layout

def names : Layout ρ → List String
  | done => []
  | field f rest => f.name :: names rest

def members : Layout ρ → ρ → List (List Symbol × Term)
  | done, _ => []
  | field f rest, (a, values) =>
      if f.isWritten a then
        (Symbol.ofText f.name, f.codec.write a) :: members rest values
      else members rest values

def ofMembers? (room : Nat) (found : List (String × Term)) : Layout ρ → Option ρ
  | done => some ()
  | field f rest => do
      let a ←
        match found.lookup f.name with
        | some t => f.codec.read? room t
        | none => f.absent
      let values ← ofMembers? room found rest
      return (a, values)

def ofItems? (room : Nat) : Layout ρ → List Term → Option ρ
  | done, [] => some ()
  | done, _ :: _ => none
  | field f rest, t :: items => do
      let a ← f.codec.read? room t
      let values ← ofItems? room rest items
      return (a, values)
  | field f rest, [] => do
      let a ← f.cutOff
      let values ← ofItems? room rest []
      return (a, values)

def hasRepeated (names : List String) (found : List String) : Bool :=
  names.any (fun n => 1 < found.count n)

def read? (l : Layout ρ) (room : Nat) (t : Term) : Option ρ :=
  match room, t with
  | room + 1, .object ms => do
      let found ← ms.mapM (fun (n, t) => (Symbol.text? n).map (·, t))
      if hasRepeated l.names (found.map Prod.fst) then none
      else ofMembers? room found l
  | room + 1, .array items => ofItems? room l items
  | _, _ => none

def codec (l : Layout ρ) (toFields : α → ρ) (ofFields : ρ → α) : Codec α where
  write a := .object (l.members (toFields a))
  read? room t := (l.read? room t).map ofFields

end Layout

namespace Term

/-- A term under the name of its variant, as the only member of an object. -/
def variantTerm (name : String) (t : Term) : Term :=
  .object [(Symbol.ofText name, t)]

def variant? : Term → Option (String × Term)
  | .object [(n, t)] => (Symbol.text? n).map (·, t)
  | _ => none

end Term
end Json
end FleetBridge
