import FleetBridge.Bridge.Clocked
import FleetBridge.Console.Session

/-!
# The console session on a wall clock

A session whose commands come to a clock that cannot be read ends there without a
word; what the lines before did stays done.
-/

namespace FleetBridge
namespace Clocked

/-- The state that a line leaves if it stops at the clock. -/
def stop? (c : Courier σ) (now : Time.Moment) (line : String) (s : σ) : Option σ :=
  let left {α : Type} (f : Bridge → Clocked α Bridge) : Option σ :=
    let (a, b) := f (c.bridge s)
    if a.isSome then none else some (c.setBridge b s)
  if now.isReadable then none
  else
    match Console.Command.ofLine line with
    | .ok (.send device errand via) =>
        let (command, s) := c.onBridge (Console.commandOf errand) s
        let (a, s) := dispatch c now device via command false s
        if a.isSome then none else some s
    | .ok (.cancel orderId) => left (moveOrder now (Bridge.cancelOrder now orderId))
    | .ok (.started orderId) => left (moveOrder now (Bridge.markStarted now orderId))
    | .ok (.completed orderId) => left (moveOrder now (Bridge.markCompleted now orderId))
    | .ok (.failed orderId reason) => left (moveOrder now (Bridge.markFailed now orderId reason))
    | .ok (.failPending reason) => left (sweep now (Bridge.failAll now reason))
    | _ => none

def run (c : Courier σ) (now : Time.Moment) (connected : Bool) :
    List String → σ → Clocked (String × Bool) σ
  | [], s => unstamped ((Console.prompt, false), s)
  | line :: rest, s =>
      match stop? c now line s with
      | some s => (none, s)
      | none =>
          let (r, s) := Console.reply c now connected line s
          if r.leaves then unstamped ((Console.prompt ++ r.text, true), s)
          else
            let (a, s) := run c now connected rest s
            (a.map (fun (printed, left) => (Console.prompt ++ r.text ++ printed, left)), s)

/-- On a clock that can be read the session is the plain one. -/
theorem run_of_isReadable (c : Courier σ) {now : Time.Moment} (h : now.isReadable = true)
    (connected : Bool) (lines : List String) (s : σ) :
    run c now connected lines s =
      (some ((Console.run c now connected lines s).1, (Console.run c now connected lines s).2.1),
        (Console.run c now connected lines s).2.2) := by
  induction lines generalizing s with
  | nil => rfl
  | cons line rest ih =>
      simp only [run, stop?, h, if_true, Console.run]
      split <;> simp [unstamped, ih]

end Clocked
end FleetBridge
