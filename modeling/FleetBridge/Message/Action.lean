import FleetBridge.Json.Record

/-!
# Actions

Something a robot is told to do, with parameters in the order in which they were
given.  A key may occur more than once among them.
-/

namespace FleetBridge
namespace Message

/-- How an action goes along with driving and with other actions. -/
inductive Blocking where
  /-- With both. -/
  | none
  /-- With other actions, but not with driving. -/
  | soft
  /-- With neither. -/
  | hard
  deriving DecidableEq

namespace Blocking

def name : Blocking → String
  | none => "NONE"
  | soft => "SOFT"
  | hard => "HARD"

def codec : Json.Codec Blocking :=
  .word [none, soft, hard] name

end Blocking

structure Parameter where
  key : String
  value : Json.Value

namespace Parameter

def layout : Json.Layout (String × Json.Value × Unit) :=
  .field (.required "key" .text) <|
  .field (.required "value" .value) <|
  .done

def codec : Json.Codec Parameter :=
  layout.codec (fun p => (p.key, p.value, ())) (fun (key, value, _) => { key, value })

end Parameter

structure Action where
  actionType : String
  /-- What the robot calls the action in its reports. -/
  actionId : String
  description : Option String
  blocking : Blocking
  parameters : List Parameter

/-- Values to put in place of parameters, by key. -/
abbrev Overrides := List (String × Json.Value)

namespace Action

def layout :
    Json.Layout (String × String × Option String × Blocking × List Parameter × Unit) :=
  .field (.required "actionType" .text) <|
  .field (.required "actionId" .text) <|
  .field (.optional "actionDescription" .text) <|
  .field (.required "blockingType" Blocking.codec) <|
  .field (.defaulted "actionParameters" Parameter.codec.list []) <|
  .done

def codec : Json.Codec Action :=
  layout.codec
    (fun a => (a.actionType, a.actionId, a.description, a.blocking, a.parameters, ()))
    (fun (actionType, actionId, description, blocking, parameters, _) =>
      { actionType, actionId, description, blocking, parameters })

/-- The value of the first parameter with that key. -/
def parameter? (key : String) (a : Action) : Option Json.Value :=
  (a.parameters.find? (fun p => p.key == key)).map Parameter.value

def override (overrides : Overrides) (a : Action) : Action :=
  { a with
    parameters := a.parameters.map (fun p =>
      { p with value := (overrides.lookup p.key).getD p.value }) }

def overridden (overrides : Overrides) (a : Action) : Nat :=
  a.parameters.countP (fun p => (overrides.lookup p.key).isSome)

end Action
end Message
end FleetBridge
