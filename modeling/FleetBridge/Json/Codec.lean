import FleetBridge.Json.Value
import FleetBridge.Time.Reading
import FleetBridge.Time.Stamp
import FleetBridge.Uuid

/-!
# Codecs

A codec says how the values of a type are written as a term and which terms are
read as one.  Reading is given the room that is left for nesting.  A text that
is refused either is no JSON value at all or is one of the wrong shape.
-/

namespace FleetBridge
namespace Json

structure Codec (α : Type) where
  write : α → Term
  read? : Nat → Term → Option α

inductive Refusal where
  /-- The text is no JSON value. -/
  | notJson
  /-- The text is a JSON value of another shape. -/
  | wrongShape
  deriving DecidableEq

namespace Codec

def text : Codec String where
  write := Term.text
  read? _ t :=
    match t with
    | .string s => Symbol.text? s
    | _ => none

def bool : Codec Bool where
  write := Term.bool
  read? _ t :=
    match t with
    | .bool b => some b
    | _ => none

def number? : Term → Option Number
  | .number l => Number.ofLiteral? l
  | _ => none

def natBelow? (bound : Nat) (t : Term) : Option Nat := do
  let n ← number? t
  let i ← n.toInt?
  if 0 ≤ i && i < bound then some i.toNat else none

def uint64 : Codec UInt64 where
  write n := .number (Literal.ofInt n.toNat)
  read? _ t := (natBelow? UInt64.size t).map UInt64.ofNat

def uint32 : Codec UInt32 where
  write n := .number (Literal.ofInt n.toNat)
  read? _ t := (natBelow? UInt32.size t).map UInt32.ofNat

/-- A count; only what fits 64 bits is read. -/
def count : Codec Nat where
  write n := .number (Literal.ofInt n)
  read? _ t := natBelow? UInt64.size t

/-- A double; one that is not finite is written as null. -/
def float : Codec Float where
  write x := (Value.ofFloat x).toTerm
  read? _ t := (number? t).map Number.toFloat

def value : Codec Value where
  write := Value.toTerm
  read? := Value.ofTerm?

def instant : Codec Time.Instant where
  write i := .text (i.stamp .fewest)
  read? room t := (text.read? room t).bind Time.Instant.ofLenientStamp?

def uuid : Codec Uuid where
  write u := .text u.text
  read? room t := (text.read? room t).bind Uuid.parse?

def option (c : Codec α) : Codec (Option α) where
  write
    | none => .null
    | some a => c.write a
  read? room t :=
    match t with
    | .null => some none
    | t => (c.read? room t).map some

def list (c : Codec α) : Codec (List α) where
  write as := .array (as.map c.write)
  read? room t :=
    match room, t with
    | room + 1, .array items => items.mapM (c.read? room)
    | _, _ => none

/-- Members of any names, in ascending order; the last of a name counts. -/
def members (c : Codec α) : Codec (List (String × α)) where
  write ms := .object (ms.map (fun (n, a) => (Symbol.ofText n, c.write a)))
  read? room t :=
    match room, t with
    | room + 1, .object ms =>
        ms.foldlM
          (fun before (n, t) => do
            let name ← Symbol.text? n
            let a ← c.read? room t
            return insertMember name a before)
          []
    | _, _ => none

/-- One of a few words, also as the name of the only member of an object, which
is null. -/
def word (all : List α) (name : α → String) : Codec α where
  write a := .text (name a)
  read? room t :=
    let find (s : List Symbol) :=
      (Symbol.text? s).bind (fun w => all.find? (fun a => name a == w))
    match room, t with
    | _, .string s => find s
    | _ + 1, .object [(s, .null)] => find s
    | _, _ => none

def render (c : Codec α) (a : α) : String :=
  (c.write a).render

def parse (c : Codec α) (s : List (Option Char)) : Except Refusal α :=
  match Term.ofGlyphs? s with
  | none => .error .notJson
  | some t =>
      match c.read? maxDepth t with
      | some a => .ok a
      | none =>
          if (Value.ofTerm? maxDepth t).isSome then .error .wrongShape else .error .notJson

def parseText (c : Codec α) (s : String) : Except Refusal α :=
  c.parse (s.toList.map some)

end Codec
end Json
end FleetBridge
