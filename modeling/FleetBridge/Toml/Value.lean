/-!
# TOML values

Texts, numbers, truth values, moments, arrays, and tables.  A table remembers how
it came about, since that decides what may be added to it later.
-/

namespace FleetBridge
namespace Toml

inductive Origin where
  /-- Written in braces; it is complete. -/
  | inline
  /-- Named by a header of its own. -/
  | header
  /-- Only named on the way to a table further down. -/
  | ancestor
  /-- Named by the front of a dotted key. -/
  | dotted
  deriving DecidableEq

inductive Value where
  | text (s : String)
  | integer (i : Int)
  | float (x : Float)
  | bool (b : Bool)
  | moment (s : String)
  | array (items : List Value)
  | table (origin : Origin) (members : List (String × Value))
  /-- The tables of a header in double brackets. -/
  | tables (items : List (List (String × Value)))

abbrev Members := List (String × Value)

end Toml
end FleetBridge
