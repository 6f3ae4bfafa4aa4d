import FleetBridge.Bridge.Dispatch

/-!
# Couriers

A courier carries payloads while the bridge waits.  Its state holds the bridge, so
that the bridge may go on in the meantime.
-/

namespace FleetBridge

structure Courier (σ : Type) where
  bridge : σ → Bridge
  setBridge : Bridge → σ → σ
  /-- Carries the payload of a ticket; `cancelled` tells whether the request was
  called off before. -/
  carry : Time.Moment → Bridge.Ticket → Bool → σ → Except Transport.Failure Unit × σ

namespace Courier

def onBridge (c : Courier σ) (f : Bridge → α × Bridge) (s : σ) : α × σ :=
  let (a, b) := f (c.bridge s)
  (a, c.setBridge b s)

def dispatch (c : Courier σ) (now : Time.Moment) (device : String)
    (via : Option Transport.Kind) (command : Bridge.Command) (cancelled : Bool) (s : σ) :
    Except Bridge.Error Bridge.Dispatched × σ :=
  match c.onBridge (Bridge.start now device via command) s with
  | (.error e, s) => (.error e, s)
  | (.ok ticket, s) =>
      let (sent, s) := c.carry now ticket cancelled s
      c.onBridge (Bridge.finish now ticket sent) s

end Courier
end FleetBridge
