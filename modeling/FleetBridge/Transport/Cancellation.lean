/-!
# Cancellation

A request may come with a signal that calls it off.  Contexts that were copied
from one another listen to the same signal.  Only the holder of the signal can
raise it; a holder who gives it up without raising it leaves a signal that never
will be raised.
-/

namespace FleetBridge
namespace Transport
namespace Cancellation

structure Signal where
  raised : Bool
  /-- Whether somebody can still raise it. -/
  held : Bool
  deriving DecidableEq

inductive Context where
  /-- Nothing: the request is never called off. -/
  | background
  | listening (signal : Nat)
  deriving DecidableEq

structure Board where
  contexts : List Context
  signals : List Signal
  /-- The signal that was made together with a context, by the context's number. -/
  holders : List (Nat × Nat)

namespace Board

def empty : Board :=
  { contexts := [], signals := [], holders := [] }

def background (b : Board) : Board :=
  { b with contexts := b.contexts ++ [.background] }

def withSignal (b : Board) : Board :=
  { contexts := b.contexts ++ [.listening b.signals.length]
    signals := b.signals ++ [{ raised := false, held := true }]
    holders := b.holders ++ [(b.contexts.length, b.signals.length)] }

def copy (i : Nat) (b : Board) : Board :=
  { b with contexts := b.contexts ++ [b.contexts.getD i .background] }

def heldBy? (i : Nat) (b : Board) : Option Nat := do
  let n ← b.holders.lookup i
  let s ← b.signals[n]?
  if s.held then some n else none

def raise (i : Nat) (b : Board) : Board :=
  match b.heldBy? i with
  | some n => { b with signals := b.signals.modify n (fun s => { s with raised := true }) }
  | none => b

def giveUp (i : Nat) (b : Board) : Board :=
  match b.heldBy? i with
  | some n => { b with signals := b.signals.modify n (fun s => { s with held := false }) }
  | none => b

def isCancelled (i : Nat) (b : Board) : Bool :=
  match b.contexts[i]? with
  | some (.listening n) => (b.signals[n]?.map Signal.raised).getD false
  | _ => false

end Board
end Cancellation
end Transport
end FleetBridge
