import FleetBridge.Toml.Document

/-!
# Written documents

A page is what the bridge writes: entries with texts and whole numbers, and then
sections of such entries under headers, with a blank line before each header.
-/

namespace FleetBridge
namespace Toml

inductive Scalar where
  | text (s : String)
  | integer (i : Int)
  deriving DecidableEq

namespace Scalar

def value : Scalar → Value
  | text s => .text s
  | integer i => .integer i

/-- Whether there is a way to write it: whole numbers have 64 bits. -/
def isWritable : Scalar → Bool
  | text _ => true
  | integer i => -0x8000000000000000 ≤ i && i < 0x8000000000000000

def written : Scalar → List Char
  | text s => writtenText s.toList
  | integer i => (Decimal.intText i).toList

end Scalar

abbrev Entries := List (String × Scalar)

structure Page where
  entries : Entries
  sections : List (String × Entries)
  deriving DecidableEq

namespace Page

def isWritable (p : Page) : Bool :=
  p.entries.all (fun e => e.2.isWritable) &&
    p.sections.all (fun s => s.2.all (fun e => e.2.isWritable))

def entryLine (e : String × Scalar) : List Char :=
  e.1.toList ++ [' ', '=', ' '] ++ e.2.written ++ ['\n']

def sectionLines (s : String × Entries) : List Char :=
  '\n' :: '[' :: s.1.toList ++ [']', '\n'] ++ s.2.flatMap entryLine

def render? (p : Page) : Option String :=
  if p.isWritable then
    some (String.ofList (p.entries.flatMap entryLine ++ p.sections.flatMap sectionLines))
  else none

end Page
end Toml
end FleetBridge
