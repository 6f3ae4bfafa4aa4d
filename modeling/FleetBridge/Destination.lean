import FleetBridge.Message.Kind
import FleetBridge.Transport.Kind

/-!
# Destinations

Where a message for a robot goes, by transport: a topic under the root for the
queue, an address made from a pattern with the kind behind it for a request, and
an address made from a pattern for a socket.  A pattern has places for the robot
and for who made it.
-/

namespace FleetBridge
namespace Destination

/-- The text with every occurrence of `old`, from the left, replaced; the first
`skipped` characters belong to an occurrence that is replaced already. -/
def replaceFrom (old new : List Char) (skipped : Nat) : List Char → List Char
  | [] => []
  | c :: rest =>
      match skipped with
      | skipped + 1 => replaceFrom old new skipped rest
      | 0 =>
          if old.isPrefixOf (c :: rest) then
            new ++ replaceFrom old new (old.length - 1) rest
          else c :: replaceFrom old new 0 rest

/-- The text with every occurrence of a text that is not empty replaced. -/
def replace (old new : List Char) (s : List Char) : List Char :=
  replaceFrom old new 0 s

def devicePlace : List Char := "\x7bdeviceId\x7d".toList

def manufacturerPlace : List Char := "\x7bmanufacturer\x7d".toList

/-- Fills in the robot and then its maker. -/
def fill (pattern device manufacturer : String) : String :=
  String.ofList <|
    replace manufacturerPlace manufacturer.toList <|
      replace devicePlace device.toList pattern.toList

def trimSlashes (s : String) : String :=
  String.ofList ((s.toList.reverse.dropWhile (· == '/')).reverse)

structure Resolver where
  root : String
  httpPattern : String
  streamPattern : String
  deriving DecidableEq

namespace Resolver

/-- A resolver whose root has no slash at its end. -/
def of (root httpPattern streamPattern : String) : Resolver :=
  { root := trimSlashes root, httpPattern, streamPattern }

def defaultRoot : String := "uagv/v2"

def defaultHttpPattern : String := "http://\x7bdeviceId\x7d:8080/vda5050"

def defaultStreamPattern : String := "ws://\x7bdeviceId\x7d:8081/vda5050"

def standard : Resolver :=
  of defaultRoot defaultHttpPattern defaultStreamPattern

def topic (r : Resolver) (manufacturer device : String) (kind : Message.Kind) : String :=
  r.root ++ "/" ++ manufacturer ++ "/" ++ device ++ "/" ++ kind.name

def wildcard (r : Resolver) (kind : Message.Kind) : String :=
  r.root ++ "/+/+/" ++ kind.name

def resolve (r : Resolver) (device manufacturer : String) (kind : Message.Kind) :
    Transport.Kind → String
  | .queue => r.topic manufacturer device kind
  | .http => trimSlashes (fill r.httpPattern device manufacturer) ++ "/" ++ kind.name
  | .stream => fill r.streamPattern device manufacturer

structure Origin where
  manufacturer : String
  device : String
  kind : Message.Kind
  deriving DecidableEq

/-- Takes a topic apart; there must be two names and a kind below the root. -/
def origin? (r : Resolver) (topic : String) : Option Origin := do
  let rest ← r.root.toList.isPrefixOf? topic.toList
  match rest with
  | '/' :: rest =>
      match rest.splitOn '/' with
      | [manufacturer, device, name] => do
          let kind ← Message.Kind.ofName? (String.ofList name)
          if manufacturer.isEmpty || device.isEmpty then none
          else
            return {
              manufacturer := String.ofList manufacturer
              device := String.ofList device
              kind }
      | _ => none
  | _ => none

end Resolver
end Destination
end FleetBridge
