import FleetBridge.Toml.Value

/-!
# Building tables

A document grows by three steps: a value is put under a dotted key, a header
opens a table, a header in double brackets opens one more table of a series.
Each is refused if it would say something twice.
-/

namespace FleetBridge
namespace Toml
namespace Members

/-- Changes the member of that name; a new one comes last.  Nothing comes of it if
the change is refused. -/
def alter (key : String) (change : Option Value → Option Value) : Members → Option Members
  | [] => (change none).map (fun v => [(key, v)])
  | (k, w) :: rest =>
      if k == key then (change (some w)).map (fun v => (k, v) :: rest)
      else (alter key change rest).map ((k, w) :: ·)

/-- Changes the table at a path.  Tables that are missing on the way are made; of a
series the last table is meant. -/
def inside (change : Members → Option Members) : List String → Members → Option Members
  | [], ms => change ms
  | key :: path, ms =>
      alter key
        (fun
          | none => (inside change path []).map (.table .ancestor)
          | some (.table .inline _) => none
          | some (.table origin sub) => (inside change path sub).map (.table origin)
          | some (.tables items) =>
              match items.reverse with
              | [] => none
              | last :: before =>
                  (inside change path last).map (fun sub => .tables (before.reverse ++ [sub]))
          | some _ => none)
        ms

def openTable (key : String) : Members → Option Members :=
  alter key
    (fun
      | none => some (.table .header [])
      | some (.table .ancestor sub) => some (.table .header sub)
      | some _ => none)

def openNext (key : String) : Members → Option Members :=
  alter key
    (fun
      | none => some (.tables [[]])
      | some (.tables items) => some (.tables (items ++ [[]]))
      | some _ => none)

/-- Puts a value under a dotted key.  `direct` tells whether the table takes values
by name; the tables of other headers do not. -/
def assign (v : Value) (key : String) : Bool → List String → Members → Option Members
  | direct, [], ms =>
      if direct then
        alter key
          (fun
            | none => some v
            | some _ => none)
          ms
      else none
  | _, part :: path, ms =>
      alter part
        (fun
          | none => (assign v key true path []).map (.table .dotted)
          | some (.table .dotted sub) => (assign v key true path sub).map (.table .dotted)
          | some (.table .ancestor sub) => (assign v key false path sub).map (.table .ancestor)
          | some (.tables items) =>
              match items.reverse with
              | [] => none
              | last :: before =>
                  (assign v key false path last).map
                    (fun sub => .tables (before.reverse ++ [sub]))
          | some _ => none)
        ms

end Members
end Toml
end FleetBridge
