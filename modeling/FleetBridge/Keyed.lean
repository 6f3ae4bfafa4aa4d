/-!
# Keyed lists

A finite map as the list of its entries, each key once, in the order in which
the keys came in.  Putting a value under a key that is there already leaves the
key at its place.
-/

namespace FleetBridge

structure Keyed (κ : Type) (α : Type) where
  entries : List (κ × α)
  nodup : (entries.map Prod.fst).Nodup

namespace Keyed

variable {κ α : Type}

def empty : Keyed κ α where
  entries := []
  nodup := List.nodup_nil

instance : Inhabited (Keyed κ α) where
  default := empty

def keys (m : Keyed κ α) : List κ :=
  m.entries.map Prod.fst

def values (m : Keyed κ α) : List α :=
  m.entries.map Prod.snd

def size (m : Keyed κ α) : Nat :=
  m.entries.length

def filter (p : κ → α → Bool) (m : Keyed κ α) : Keyed κ α where
  entries := m.entries.filter (fun e => p e.1 e.2)
  nodup := m.nodup.sublist ((List.filter_sublist).map Prod.fst)

def map (f : κ → α → α) (m : Keyed κ α) : Keyed κ α where
  entries := m.entries.map (fun e => (e.1, f e.1 e.2))
  nodup := by
    have h : (m.entries.map (fun e => (e.1, f e.1 e.2))).map Prod.fst =
        m.entries.map Prod.fst := by
      simp
    exact h ▸ m.nodup

variable [DecidableEq κ]

def find? (k : κ) (m : Keyed κ α) : Option α :=
  m.entries.lookup k

def contains (k : κ) (m : Keyed κ α) : Bool :=
  m.keys.contains k

def erase (k : κ) (m : Keyed κ α) : Keyed κ α :=
  m.filter (fun l _ => l != k)

def insert (k : κ) (a : α) (m : Keyed κ α) : Keyed κ α :=
  if h : k ∈ m.keys then
    m.map (fun l b => if l = k then a else b)
  else
    { entries := m.entries ++ [(k, a)]
      nodup := by
        rw [List.map_append, List.nodup_append]
        refine ⟨m.nodup, by simp, ?_⟩
        intro l hl l' hl' heq
        have hk : l' = k := by simpa using hl'
        exact h (by rw [keys]; exact hk ▸ heq ▸ hl) }

def modify (k : κ) (f : α → α) (m : Keyed κ α) : Keyed κ α :=
  m.map (fun l a => if l = k then f a else a)

/-- Puts every entry of a list under its key, the last one of a key counting. -/
def ofList (entries : List (κ × α)) : Keyed κ α :=
  entries.foldl (fun m e => m.insert e.1 e.2) empty

end Keyed
end FleetBridge
