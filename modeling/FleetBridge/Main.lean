import FleetBridge.Config.Environment
import FleetBridge.Config.File
import FleetBridge.Config.Location
import FleetBridge.Console.Session
import FleetBridge.Station
import Std.Time.DateTime.Timestamp

/-!
# The program

Reads the settings and the templates, and then talks to the operator line by line.
-/

namespace FleetBridge
namespace Program

def readClocks : IO Time.Moment := do
  let wall ← Std.Time.Timestamp.now
  let elapsed ← IO.monoNanosNow
  return { wall := wall.toNanosecondsSinceUnixEpoch.val, elapsed }

def readSeed : IO Nat := do
  let bytes ← IO.getRandomBytes 16
  return bytes.toList.foldl (fun n b => n * 256 + b.toNat) 0

def readText? (path : String) : IO (Option String) := do
  try
    let text ← IO.FS.readFile path
    return some text
  catch _ =>
    return none

def readEnvironment : IO Config.Environment := do
  let mut env := []
  for name in Config.variableNames do
    if let some value ← IO.getEnv name then
      env := env ++ [(name, value)]
  return env

def settingsPath : IO String := do
  let home ← IO.getEnv "HOME"
  return Config.fileIn (home.getD ".") ".fleetlink/config.toml"

def readConfig (path : String) : IO Config := do
  match ← readText? path with
  | none => return {}
  | some text =>
      match Config.ofText? text with
      | some c =>
          IO.println ("  Config loaded from " ++ path)
          return c
      | none =>
          IO.println "  Using default configuration."
          return {}

def readLibrary (path : Option String) : IO Template.Library := do
  match path with
  | none => return .empty
  | some path =>
      let text ← IO.FS.readFile path
      match Template.Catalog.codec.parseText text with
      | .ok catalog => return .ofCatalog catalog
      | .error _ => throw (IO.userError ("no catalog of templates in " ++ path))

/-- Talks to the operator until the input ends or the operator leaves. -/
partial def converse (s : Station) : IO Unit := do
  IO.print Console.prompt
  (← IO.getStdout).flush
  let line ← (← IO.getStdin).getLine
  if line.isEmpty then return ()
  let (reply, s) := Console.reply Station.courier (← readClocks) false line s
  IO.print reply.text
  if reply.leaves then return ()
  converse s

end Program
end FleetBridge

open FleetBridge Program in
def main : IO Unit := do
  let config ← readConfig (← settingsPath)
  let config := config.withEnvironment (← readEnvironment)
  let library ← readLibrary config.templatesPath
  IO.println ("  " ++ Decimal.text library.orderIds.length ++ " order template(s) loaded")
  converse (.ofConfig config library (.ofSeed (← readSeed)))
