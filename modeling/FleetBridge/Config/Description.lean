import FleetBridge.Config.Basic
import FleetBridge.Text.Quoted

/-!
# Settings in a log

Settings as one line for a log.  The password is withheld; only whether there is
one can be seen.
-/

namespace FleetBridge
namespace Config

def described (name : String) (fields : List (String × String)) : String :=
  name ++ " \x7b " ++ ", ".intercalate (fields.map (fun f => f.1 ++ ": " ++ f.2)) ++ " \x7d"

def describedOption (text : α → String) : Option α → String
  | none => "None"
  | some a => "Some(" ++ text a ++ ")"

def describedWord (n : UInt64) : String :=
  Decimal.text n.toNat

def describedTransport : Transport.Kind → String
  | .queue => "Queue"
  | .http => "Http"
  | .stream => "Stream"

namespace Broker

/-- What is shown instead of the password. -/
def passwordMark (b : Broker) : String :=
  Text.quoted (if b.password.isSome then "<redacted>" else "<not set>")

def peerFields (b : Broker) : List (String × String) :=
  [ ("host", Text.quoted b.host),
    ("port", Decimal.text b.port.toNat),
    ("client_id", Text.quoted b.clientId),
    ("username", describedOption Text.quoted b.username),
    ("password", b.passwordMark) ]

def description (b : Broker) : String :=
  described "MqttSection" <|
    b.peerFields ++
      [ ("keep_alive_secs", describedWord b.keepAliveSeconds),
        ("publish_timeout_ms", describedWord b.publishTimeoutMillis),
        ("root_namespace", Text.quoted b.root) ]

def connectionDescription (b : Broker) : String :=
  described "MqttConfig" <|
    b.peerFields ++
      [ ("keep_alive", Time.Span.text (Time.Span.ofSeconds b.keepAliveSeconds.toNat)),
        ("publish_timeout",
          Time.Span.text (Time.Span.ofMillis b.publishTimeoutMillis.toNat)) ]

end Broker

def Endpoint.description (e : Endpoint) : String :=
  described "EndpointSection"
    [ ("url_template", Text.quoted e.pattern),
      ("timeout_ms", describedWord e.timeoutMillis) ]

def Statuses.description (s : Statuses) : String :=
  described "StatusCacheSection"
    [ ("heartbeat_secs", describedWord s.heartbeatSeconds),
      ("ttl_secs", describedWord s.ttlSeconds),
      ("sweep_interval_secs", describedWord s.sweepSeconds) ]

def Rate.description (r : Rate) : String :=
  described "RateLimitSection"
    [ ("min_interval_ms", describedWord r.minMillis),
      ("burst_interval_ms", describedWord r.burstMillis) ]

def description (c : Config) : String :=
  described "Config"
    [ ("default_transport", describedTransport c.preferred),
      ("database_path", describedOption Text.quoted c.databasePath),
      ("templates_path", describedOption Text.quoted c.templatesPath),
      ("fallback_manufacturer", Text.quoted c.fallbackManufacturer),
      ("pending_ttl_secs", describedWord c.pendingTtlSeconds),
      ("mqtt", c.broker.description),
      ("http", c.http.description),
      ("stream", c.stream.description),
      ("status_cache", c.statuses.description),
      ("rate_limit", c.rate.description) ]

end Config
end FleetBridge
