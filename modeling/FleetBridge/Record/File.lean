import FleetBridge.Record.Store

/-!
# Record files

What survives of a store when the bridge stops.  A file may come from a version
of the bridge whose table had no flag for dispatches in flight; opening it adds
the flag, down for every row that is there.
-/

namespace FleetBridge
namespace Record

inductive File where
  /-- The table without the flag. -/
  | unflagged (rows : List Columns)
  | flagged (s : Store)

namespace File

def opened : File → Store
  | unflagged rows => Store.ofRows (rows.map (fun c => { c with inFlight := false }))
  | flagged s => s

def upgraded (f : File) : File :=
  flagged f.opened

theorem opened_upgraded (f : File) : f.upgraded.opened = f.opened := rfl

end File
end Record
end FleetBridge
