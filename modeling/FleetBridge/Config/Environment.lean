import FleetBridge.Config.Basic

/-!
# Settings from the environment

Variables take precedence over the file.  One whose value makes no sense is passed
over.
-/

namespace FleetBridge
namespace Config

abbrev Environment := List (String × String)

def variableNames : List String :=
  [ "FLEETLINK_MQTT_HOST", "FLEETLINK_MQTT_PORT", "FLEETLINK_DEFAULT_TRANSPORT",
    "FLEETLINK_DATABASE_PATH", "FLEETLINK_TEMPLATES_PATH" ]

def port? (s : String) : Option UInt16 :=
  ((Decimal.natOfText? s).filter (· < UInt16.size)).map UInt16.ofNat

def transport? (s : String) : Option Transport.Kind :=
  (Transport.Kind.ofText s).toOption

def withEnvironment (env : Environment) (c : Config) : Config :=
  { c with
    broker :=
      { c.broker with
        host := (env.lookup "FLEETLINK_MQTT_HOST").getD c.broker.host
        port := ((env.lookup "FLEETLINK_MQTT_PORT").bind port?).getD c.broker.port }
    preferred := ((env.lookup "FLEETLINK_DEFAULT_TRANSPORT").bind transport?).getD c.preferred
    databasePath := (env.lookup "FLEETLINK_DATABASE_PATH").or c.databasePath
    templatesPath := (env.lookup "FLEETLINK_TEMPLATES_PATH").or c.templatesPath }

end Config
end FleetBridge
