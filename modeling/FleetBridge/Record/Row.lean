import FleetBridge.Record.Basic
import FleetBridge.Text.Blank

/-!
# Rows

A record as it is stored: the status by name, times as stamps with six decimals,
the revision as a signed number of 64 bits, and a flag that is up while nobody
knows what became of the dispatch.  A row whose status or stamps cannot be read
stands for no record.
-/

namespace FleetBridge
namespace Record

/-- The columns that every version of the table has. -/
structure Columns where
  orderId : String
  templateId : Option String
  device : String
  revision : Int64
  status : String
  errorMessage : Option String
  createdAt : String
  startedAt : Option String
  completedAt : Option String
  deriving DecidableEq

structure Row extends Columns where
  inFlight : Bool
  deriving DecidableEq

def stamp (i : Time.Instant) : String :=
  i.stamp .micros

inductive Unreadable where
  | status (text : String)
  | stamp (column : Nat)
  deriving DecidableEq

namespace Unreadable

def message : Unreadable → String
  | status text => "Invalid column type Text at index: 4, name: " ++ text
  | stamp column =>
      "Conversion error from type Text at index: " ++ Decimal.text column ++
        ", input contains invalid characters"

end Unreadable

def readStatus (text : String) : Except Unreadable Status :=
  match Status.ofName? text with
  | some status => .ok status
  | none => .error (.status text)

def readStamp (column : Nat) (text : String) : Except Unreadable Time.Instant :=
  match Time.Instant.ofStamp? text with
  | some i => .ok i
  | none => .error (.stamp column)

def readOptionalStamp (column : Nat) :
    Option String → Except Unreadable (Option Time.Instant)
  | none => .ok none
  | some text => (readStamp column text).map some

namespace Columns

def record (c : Columns) : Except Unreadable Record := do
  let status ← readStatus c.status
  let createdAt ← readStamp 6 c.createdAt
  let startedAt ← readOptionalStamp 7 c.startedAt
  let completedAt ← readOptionalStamp 8 c.completedAt
  return {
    orderId := c.orderId
    templateId := c.templateId
    device := c.device
    revision := c.revision.toUInt64
    status
    errorMessage := c.errorMessage
    createdAt
    startedAt
    completedAt }

def ofDraft (now : Time.Instant) (d : Draft) : Columns :=
  { orderId := d.orderId
    templateId := d.templateId
    device := d.device
    revision := d.revision.toInt64
    status := Status.created.name
    errorMessage := none
    createdAt := stamp now
    startedAt := none
    completedAt := none }

/-- The message that goes into a record with a status: a failure always has one. -/
def messageFor (status : Status) (message : Option String) : Option String :=
  if status == .failed then
    match message with
    | none => some unspecifiedFailure
    | some m => if Text.isAllBlank m then some unspecifiedFailure else some m
  else message

def moved (now : Time.Instant) (status : Status) (message : Option String)
    (c : Columns) : Columns :=
  { c with
    status := status.name
    errorMessage := (messageFor status message).or c.errorMessage
    startedAt := if status == .started then some (stamp now) else c.startedAt
    completedAt := if status.isFinal then some (stamp now) else c.completedAt }

end Columns

namespace Row

def ofDraft (now : Time.Instant) (d : Draft) : Row :=
  { Columns.ofDraft now d with inFlight := true }

def moved (now : Time.Instant) (status : Status) (message : Option String)
    (r : Row) : Row :=
  { r with toColumns := r.toColumns.moved now status message }

def land (r : Row) : Row :=
  { r with inFlight := false }

/-- Whether the dispatch of the row has begun and nothing more is known. -/
def isStranded (r : Row) : Bool :=
  r.inFlight && r.status == Status.created.name

end Row
end Record
end FleetBridge
