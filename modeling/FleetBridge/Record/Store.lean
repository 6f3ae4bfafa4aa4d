import FleetBridge.Record.Row

/-!
# The store of records

The rows in the order in which they were inserted, one for each order id.  A
dispatch begins with a row in flight and ends by settling it, or by discarding it
when nothing was sent.  Whoever else wants to move a record goes through the
lifecycle.
-/

namespace FleetBridge
namespace Record

namespace Store

inductive Error where
  | unreadable (why : Unreadable)
  | notFound (orderId : String)
  | duplicate (orderId : String)
  | invalidTransition (orderId : String) (source target : Status)
  deriving DecidableEq

namespace Error

def name : Error → String
  | unreadable _ => "Sqlite"
  | notFound _ => "NotFound"
  | duplicate _ => "Duplicate"
  | invalidTransition _ _ _ => "InvalidStateTransition"

def message : Error → String
  | unreadable why => "SQLite error: " ++ why.message
  | notFound orderId => "Order execution record not found: " ++ orderId
  | duplicate orderId => "Order execution record already exists: " ++ orderId
  | invalidTransition orderId source target =>
      "Invalid state transition for order " ++ orderId ++ ": " ++ source.name ++
        " -> " ++ target.name

end Error
end Store

structure Store where
  rows : List Row
  nodup : (rows.map (fun r => r.orderId)).Nodup

namespace Store

def empty : Store where
  rows := []
  nodup := List.nodup_nil

def row? (orderId : String) (s : Store) : Option Row :=
  s.rows.find? (fun r => r.orderId == orderId)

def contains (orderId : String) (s : Store) : Bool :=
  s.rows.any (fun r => r.orderId == orderId)

def filter (p : Row → Bool) (s : Store) : Store where
  rows := s.rows.filter p
  nodup := s.nodup.sublist (List.filter_sublist.map _)

/-- Changes rows without touching their order ids. -/
def map (f : Row → Row) (h : ∀ r, (f r).orderId = r.orderId) (s : Store) : Store where
  rows := s.rows.map f
  nodup := by
    have : (s.rows.map f).map (fun r => r.orderId) = s.rows.map (fun r => r.orderId) := by
      simp [h]
    exact this ▸ s.nodup

/-- Adds a row behind all others unless there is one with its order id. -/
def append? (r : Row) (s : Store) : Option Store :=
  if h : r.orderId ∈ s.rows.map (fun r => r.orderId) then none
  else
    some
      { rows := s.rows ++ [r]
        nodup := by
          rw [List.map_append, List.nodup_append]
          refine ⟨s.nodup, by simp, ?_⟩
          intro k hk k' hk' heq
          have hk'' : k' = r.orderId := by simpa using hk'
          exact h (hk'' ▸ heq ▸ hk) }

/-- Inserts rows as they are; one whose order id is taken is passed over. -/
def ofRows (rows : List Row) : Store :=
  rows.foldl (fun s r => (s.append? r).getD s) empty

def modify (orderId : String) (f : Row → Row) (h : ∀ r, (f r).orderId = r.orderId)
    (s : Store) : Store :=
  s.map (fun r => if r.orderId = orderId then f r else r) (by
    intro r
    split
    · exact h r
    · rfl)

def read (r : Row) : Except Error Record :=
  match r.record with
  | .ok record => .ok record
  | .error why => .error (.unreadable why)

def get (orderId : String) (s : Store) : Except Error Record :=
  match s.row? orderId with
  | none => .error (.notFound orderId)
  | some r => read r

def land (orderId : String) (s : Store) : Store :=
  s.modify orderId Row.land (fun _ => rfl)

/-- Begins the dispatch of a new record; its row is in flight from now on. -/
def begin (now : Time.Instant) (d : Draft) (s : Store) : Except Error Store :=
  match s.append? (Row.ofDraft now d) with
  | some s => .ok s
  | none => .error (.duplicate d.orderId)

def transition (now : Time.Instant) (orderId : String) (status : Status)
    (message : Option String) (s : Store) : Except Error Store := do
  let current ← s.get orderId
  if current.status.admits status then
    return s.modify orderId (Row.moved now status message) (fun _ => rfl)
  else
    throw (.invalidTransition orderId current.status status)

/-- Moves a record; nothing changes unless the moved record can be read back. -/
def update (now : Time.Instant) (orderId : String) (status : Status)
    (message : Option String) (s : Store) : Except Error (Record × Store) := do
  let s ← s.transition now orderId status message
  let record ← s.get orderId
  return (record, s)

/-- Ends a dispatch with a status.  The flag comes down in any case, and a move that
the lifecycle admits stays even if the record cannot be read back. -/
def settle (now : Time.Instant) (orderId : String) (status : Status)
    (message : Option String) (s : Store) : Except Error Record × Store :=
  let landed := s.land orderId
  match landed.transition now orderId status message with
  | .error e => (.error e, landed)
  | .ok moved => (moved.get orderId, moved)

def commitSent (now : Time.Instant) (orderId : String) (s : Store) :
    Except Error Record × Store :=
  s.settle now orderId .sent none

def commitFailed (now : Time.Instant) (orderId reason : String) (s : Store) :
    Except Error Record × Store :=
  s.settle now orderId .failed (some reason)

def isUnsent (orderId : String) (r : Row) : Bool :=
  r.orderId == orderId && r.isStranded

/-- Ends a dispatch in which nothing was sent: the row goes, unless somebody moved
the record in the meantime. -/
def discard (orderId : String) (s : Store) : Store :=
  if s.rows.any (isUnsent orderId) then s.filter (fun r => !isUnsent orderId r)
  else s.land orderId

/-- Fails the records that are in flight still, which is right only when nobody is
dispatching; all flags come down. -/
def recover (now : Time.Instant) (s : Store) : Except Error (List Record × Store) := do
  let stranded := (s.rows.filter Row.isStranded).map (fun r => r.orderId)
  let (records, s) ← stranded.foldlM
    (fun (records, s) orderId => do
      let (record, s) ← s.update now orderId .failed (some interruptedDispatch)
      return (records ++ [record], s))
    ([], s)
  return (records, s.map Row.land (fun _ => rfl))

/-- Rows by the time of their creation, oldest first; of equal times the one inserted
first comes first. -/
def oldestFirst (rows : List Row) : List Row :=
  rows.mergeSort (fun a b => !decide (b.createdAt < a.createdAt))

/-- At most `limit` of the rows behind the first `offset`, both read as signed
numbers: a negative limit means all, and a negative offset none. -/
def page (limit offset : UInt64) (rows : List Row) : List Row :=
  let limit := limit.toInt64.toInt
  let rows := rows.drop offset.toInt64.toInt.toNat
  if limit < 0 then rows else rows.take limit.toNat

def listByDevice (device : String) (limit offset : UInt64) (s : Store) :
    Except Error (List Record) :=
  List.mapM read <| page limit offset <|
    (oldestFirst (s.rows.filter (fun r => r.device == device))).reverse

def listByStatus (status : Status) (s : Store) : Except Error (List Record) :=
  List.mapM read (oldestFirst (s.rows.filter (fun r => r.status == status.name)))

def countByStatus (status : Status) (device : Option String) (s : Store) : Nat :=
  s.rows.countP (fun r =>
    r.status == status.name && (device.map (r.device == ·)).getD true)

end Store
end Record
end FleetBridge
