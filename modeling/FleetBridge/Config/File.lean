import FleetBridge.Config.Basic
import FleetBridge.Toml.Layout

/-!
# The settings file

Settings as a TOML document: the general ones first, then a section for each part.
What a file does not mention keeps its default, except that a section on an
endpoint has to name its pattern.
-/

namespace FleetBridge
namespace Config

open Toml (Field Layout)

namespace Broker

def layout :
    Layout (String × UInt16 × String × Option String × Option String × UInt64 × UInt64 ×
      String × Unit) :=
  let default : Broker := {}
  .field (.defaulted "host" .text default.host) <|
  .field (.defaulted "port" .uint16 default.port) <|
  .field (.defaulted "client_id" .text default.clientId) <|
  .field (.optional "username" .text) <|
  .field (.optional "password" .text) <|
  .field (.defaulted "keep_alive_secs" .uint64 default.keepAliveSeconds) <|
  .field (.defaulted "publish_timeout_ms" .uint64 default.publishTimeoutMillis) <|
  .field (.defaulted "root_namespace" .text default.root) <|
  .done

def entries (b : Broker) : Toml.Entries :=
  layout.entries
    (b.host, b.port, b.clientId, b.username, b.password, b.keepAliveSeconds,
      b.publishTimeoutMillis, b.root, ())

def ofValue? (v : Toml.Value) : Option Broker := do
  let (host, port, clientId, username, password, keepAliveSeconds, publishTimeoutMillis,
    root, _) ← layout.ofValue? v
  return {
    host, port, clientId, username, password
    keepAliveSeconds, publishTimeoutMillis, root }

end Broker

namespace Endpoint

def layout : Layout (String × UInt64 × Unit) :=
  .field (.required "url_template" .text) <|
  .field (.defaulted "timeout_ms" .uint64 10000) <|
  .done

def entries (e : Endpoint) : Toml.Entries :=
  layout.entries (e.pattern, e.timeoutMillis, ())

def ofValue? (v : Toml.Value) : Option Endpoint := do
  let (pattern, timeoutMillis, _) ← layout.ofValue? v
  return { pattern, timeoutMillis }

end Endpoint

namespace Statuses

def layout : Layout (UInt64 × UInt64 × UInt64 × Unit) :=
  let default : Statuses := {}
  .field (.defaulted "heartbeat_secs" .uint64 default.heartbeatSeconds) <|
  .field (.defaulted "ttl_secs" .uint64 default.ttlSeconds) <|
  .field (.defaulted "sweep_interval_secs" .uint64 default.sweepSeconds) <|
  .done

def entries (s : Statuses) : Toml.Entries :=
  layout.entries (s.heartbeatSeconds, s.ttlSeconds, s.sweepSeconds, ())

def ofValue? (v : Toml.Value) : Option Statuses := do
  let (heartbeatSeconds, ttlSeconds, sweepSeconds, _) ← layout.ofValue? v
  return { heartbeatSeconds, ttlSeconds, sweepSeconds }

end Statuses

namespace Rate

def layout : Layout (UInt64 × UInt64 × Unit) :=
  let default : Rate := {}
  .field (.defaulted "min_interval_ms" .uint64 default.minMillis) <|
  .field (.defaulted "burst_interval_ms" .uint64 default.burstMillis) <|
  .done

def entries (r : Rate) : Toml.Entries :=
  layout.entries (r.minMillis, r.burstMillis, ())

def ofValue? (v : Toml.Value) : Option Rate := do
  let (minMillis, burstMillis, _) ← layout.ofValue? v
  return { minMillis, burstMillis }

end Rate

def layout :
    Layout (Transport.Kind × Option String × Option String × String × UInt64 × Unit) :=
  let default : Config := {}
  .field (.defaulted "default_transport" (.word Transport.Kind.all Transport.Kind.name)
    default.preferred) <|
  .field (.optional "database_path" .text) <|
  .field (.optional "templates_path" .text) <|
  .field (.defaulted "fallback_manufacturer" .text default.fallbackManufacturer) <|
  .field (.defaulted "pending_ttl_secs" .uint64 default.pendingTtlSeconds) <|
  .done

def page (c : Config) : Toml.Page :=
  { entries :=
      layout.entries
        (c.preferred, c.databasePath, c.templatesPath, c.fallbackManufacturer,
          c.pendingTtlSeconds, ())
    sections :=
      [ ("mqtt", c.broker.entries),
        ("http", c.http.entries),
        ("stream", c.stream.entries),
        ("status_cache", c.statuses.entries),
        ("rate_limit", c.rate.entries) ] }

/-- A section if there is one, and otherwise a default. -/
def sectionOf? (ofValue? : Toml.Value → Option α) (name : String) (default : α)
    (ms : Toml.Members) : Option α :=
  match ms.lookup name with
  | some v => ofValue? v
  | none => some default

def ofMembers? (ms : Toml.Members) : Option Config := do
  let default : Config := {}
  let (preferred, databasePath, templatesPath, fallbackManufacturer, pendingTtlSeconds, _) ←
    layout.ofMembers? ms
  let broker ← sectionOf? Broker.ofValue? "mqtt" default.broker ms
  let http ← sectionOf? Endpoint.ofValue? "http" default.http ms
  let stream ← sectionOf? Endpoint.ofValue? "stream" default.stream ms
  let statuses ← sectionOf? Statuses.ofValue? "status_cache" default.statuses ms
  let rate ← sectionOf? Rate.ofValue? "rate_limit" default.rate ms
  return {
    preferred, databasePath, templatesPath, fallbackManufacturer, pendingTtlSeconds
    broker, http, stream, statuses, rate }

def ofText? (s : String) : Option Config :=
  (Toml.Members.ofText? s).bind ofMembers?

/-- The file that holds the settings, if all numbers can be written. -/
def render? (c : Config) : Option String :=
  c.page.render?

end Config
end FleetBridge
