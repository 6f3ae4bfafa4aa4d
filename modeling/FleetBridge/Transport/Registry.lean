import FleetBridge.Keyed
import FleetBridge.Transport.Failure

/-!
# The registry of transports

At most one transport is registered for each kind.  A payload goes out over the
transport of the kind that was asked for, and closing goes through all of them
whatever the others answer.
-/

namespace FleetBridge
namespace Transport

/-- `τ` is the type of the transports. -/
structure Registry (τ : Type) where
  transports : Keyed Kind τ
  /-- The kind that is taken when nobody asks for one. -/
  preferred : Kind

namespace Registry

def empty (preferred : Kind) : Registry τ :=
  { transports := .empty, preferred }

/-- Registers a transport; also gives the one that it takes the place of. -/
def register (kind : Kind) (t : τ) (r : Registry τ) : Option τ × Registry τ :=
  (r.transports.find? kind, { r with transports := r.transports.insert kind t })

def isRegistered (kind : Kind) (r : Registry τ) : Bool :=
  r.transports.contains kind

def kinds (r : Registry τ) : List Kind :=
  Kind.all.filter r.isRegistered

def find (kind : Kind) (r : Registry τ) : Except Failure τ :=
  match r.transports.find? kind with
  | some t => .ok t
  | none => .error (.notRegistered kind)

def inOrder (r : Registry τ) : List (Kind × τ) :=
  Kind.all.filterMap (fun k => (r.transports.find? k).map (k, ·))

def closeFailures (close : τ → Except Failure Unit) (r : Registry τ) :
    List (Kind × Failure) :=
  r.inOrder.filterMap (fun (k, t) =>
    match close t with
    | .ok () => none
    | .error f => some (k, f))

def closeMessage (failures : List (Kind × Failure)) : String :=
  Decimal.text failures.length ++ " transport(s) failed to close: " ++
    "; ".intercalate (failures.map (fun (k, f) => k.name ++ ": " ++ f.message))

end Registry
end Transport
end FleetBridge
