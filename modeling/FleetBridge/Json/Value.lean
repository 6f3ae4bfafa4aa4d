import FleetBridge.Json.Grammar
import FleetBridge.Json.Number

/-!
# JSON values

A value keeps what a term means: numbers and texts instead of spellings, and
members in ascending order of their names, each name once.  Where a name occurs
twice the last member counts.  A value nests at most as deep as there is room.
-/

namespace FleetBridge
namespace Json

inductive Value where
  | null
  | bool (b : Bool)
  | number (n : Number)
  | string (s : String)
  | array (items : List Value)
  | object (members : List (String × Value))

def maxDepth : Nat := 127

/-- Puts a member into its place; a member of the same name makes way. -/
def insertMember (name : String) (v : α) : List (String × α) → List (String × α)
  | [] => [(name, v)]
  | (n, w) :: rest =>
      if name < n then (name, v) :: (n, w) :: rest
      else if name == n then (name, v) :: rest
      else (n, w) :: insertMember name v rest

namespace Value

mutual

def ofTerm? : Nat → Term → Option Value
  | _, .null => some null
  | _, .bool b => some (bool b)
  | _, .number l => (Number.ofLiteral? l).map number
  | _, .string s => (Symbol.text? s).map string
  | 0, .array _ => none
  | room + 1, .array items => (ofItems? room items).map array
  | 0, .object _ => none
  | room + 1, .object members => (ofMembers? room [] members).map object

def ofItems? : Nat → List Term → Option (List Value)
  | _, [] => some []
  | room, t :: rest => do
      let v ← ofTerm? room t
      let vs ← ofItems? room rest
      return v :: vs

def ofMembers? : Nat → List (String × Value) → List (List Symbol × Term) →
    Option (List (String × Value))
  | _, before, [] => some before
  | room, before, (n, t) :: rest => do
      let name ← Symbol.text? n
      let v ← ofTerm? room t
      ofMembers? room (insertMember name v before) rest

end

mutual

def toTerm : Value → Term
  | null => .null
  | bool b => .bool b
  | number n => .number n.literal
  | string s => .text s
  | array items => .array (itemTerms items)
  | object members => .object (memberTerms members)

def itemTerms : List Value → List Term
  | [] => []
  | v :: rest => toTerm v :: itemTerms rest

def memberTerms : List (String × Value) → List (List Symbol × Term)
  | [] => []
  | (name, v) :: rest => (Symbol.ofText name, toTerm v) :: memberTerms rest

end

def render (v : Value) : String :=
  v.toTerm.render

def ofText? (s : String) : Option Value :=
  (Term.ofText? s).bind (ofTerm? maxDepth)

def member? (name : String) : Value → Option Value
  | object members => members.lookup name
  | _ => none

def text? : Value → Option String
  | string s => some s
  | _ => none

/-- A double; one that is not finite becomes null. -/
def ofFloat (x : Float) : Value :=
  ((Number.ofFloat? x).map number).getD null

end Value
end Json
end FleetBridge
