import FleetBridge.Config.Basic

/-!
# Where files are

The records lie beside the settings file unless their place is set.  A path is a
sequence of names between slashes; empty names and names of a single dot say
nothing, except for the slash that a path from the root begins with and for a dot
at the front of one that is not.
-/

namespace FleetBridge
namespace Config

def pieces : List Char → List (List Char)
  | [] => [[]]
  | c :: rest =>
      if c == '/' then [] :: pieces rest
      else
        match pieces rest with
        | piece :: others => (c :: piece) :: others
        | [] => [[c]]

/-- The pieces, last first, without those at the end that say nothing. -/
def dropSilent : List (List Char) → List (List Char)
  | piece :: before =>
      if piece.isEmpty || (piece == ['.'] && !before.isEmpty) then dropSilent before
      else piece :: before
  | [] => []

/-- The directory that a path lies in; the root and the empty path lie in none. -/
def directory? (path : String) : Option String :=
  let s := path.toList
  match dropSilent (pieces s).reverse with
  | [] => none
  | _ :: before =>
      let kept := dropSilent before
      let text := ['/'].intercalate kept.reverse
      some (if kept.isEmpty && s.head? == some '/' then "/" else String.ofList text)

def fileIn (directory name : String) : String :=
  if directory.isEmpty || directory == "/" then directory ++ name
  else directory ++ "/" ++ name

def recordsName : String := "orders.db"

def databaseBeside (file : String) (c : Config) : String :=
  match c.databasePath, directory? file with
  | some path, _ => path
  | none, some directory => fileIn directory recordsName
  | none, none => recordsName

example : directory? "/etc/fleetlink/config.toml" = some "/etc/fleetlink" := by decide +kernel

example : directory? "./c" = some "." := by decide +kernel

example : directory? "a//b/." = some "a" := by decide +kernel

example : directory? "//x" = some "/" := by decide +kernel

example : directory? "/" = none := by decide +kernel

end Config
end FleetBridge
