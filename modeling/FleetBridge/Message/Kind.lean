/-!
# Kinds of message

The channels between the bridge and a robot.  The name of a kind is the last
segment of a topic and of an address.
-/

namespace FleetBridge
namespace Message

inductive Kind where
  | order
  | instantActions
  | state
  | connection
  | factsheet
  | visualization
  deriving DecidableEq

namespace Kind

def all : List Kind :=
  [order, instantActions, state, connection, factsheet, visualization]

def name : Kind → String
  | order => "order"
  | instantActions => "instantActions"
  | state => "state"
  | connection => "connection"
  | factsheet => "factsheet"
  | visualization => "visualization"

def ofName? (s : String) : Option Kind :=
  all.find? (fun kind => kind.name == s)

theorem ofName?_name (k : Kind) : ofName? k.name = some k := by
  cases k <;> decide

end Kind
end Message
end FleetBridge
