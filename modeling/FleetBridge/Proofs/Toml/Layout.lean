import FleetBridge.Proofs.Lookup
import FleetBridge.Proofs.Toml.Page
import FleetBridge.Proofs.Toml.Range
import FleetBridge.Toml.Layout

/-!
# Sections read back

A section is read back from what is written of it if each of its fields is, and if a field is
left out only where the same value stands in.  What was read of a section can be written again
if its numbers can.
-/

namespace FleetBridge
namespace Toml

variable {α ρ : Type} {v : Value} {ms : Members}

namespace Codec

/-- Each setting is read back from what it is written as, and what was read can be written. -/
structure Faithful (c : Codec α) : Prop where
  read?_write : ∀ a, c.read? (c.write a).value = some a
  isWritable_of_read? : ∀ {v a}, v.Fits → c.read? v = some a → (c.write a).isWritable = true

theorem faithful_text : text.Faithful where
  read?_write _ := rfl
  isWritable_of_read? _ _ := rfl

theorem faithful_word {all : List α} {name : α → String}
    (hfound : ∀ a, all.find? (fun b => name b == name a) = some a) : (word all name).Faithful where
  read?_write := hfound
  isWritable_of_read? _ _ := rfl

theorem faithful_natural {bound : Nat} {toNat : α → Nat} {ofNat : Nat → α}
    (hbound : ∀ a, toNat a < bound) (hofNat : ∀ a, ofNat (toNat a) = a)
    (htoNat : ∀ n, toNat (ofNat n) ≤ n) : (natural bound toNat ofNat).Faithful where
  read?_write a := by
    have hrange : (decide (0 ≤ (toNat a : Int)) && decide ((toNat a : Int) < bound)) = true := by
      simpa using hbound a
    change (if _ then _ else _) = _
    rw [if_pos hrange, Int.toNat_natCast, hofNat]
  isWritable_of_read? := by
    intro v a hfits hread
    cases hfits with
    | integer hfits =>
        rename_i i
        change (if _ then _ else _) = _ at hread
        split at hread
        · rename_i hrange
          cases hread
          have hle := htoNat i.toNat
          change Scalar.isWritable (.integer (toNat (ofNat i.toNat))) = true
          rw [Scalar.isWritable, Bool.and_eq_true, decide_eq_true_eq, decide_eq_true_eq] at hfits ⊢
          rw [Bool.and_eq_true, decide_eq_true_eq] at hrange
          omega
        · cases hread
    | _ => cases hread

theorem faithful_uint16 : uint16.Faithful :=
  faithful_natural UInt16.toNat_lt (fun _ => UInt16.ofNat_toNat)
    (fun _ => Nat.mod_le _ UInt16.size)

theorem faithful_uint64 : uint64.Faithful :=
  faithful_natural UInt64.toNat_lt (fun _ => UInt64.ofNat_toNat)
    (fun _ => Nat.mod_le _ UInt64.size)

theorem isWritable_text (s : String) : (text.write s).isWritable = true :=
  rfl

theorem isWritable_word (all : List α) (name : α → String) (a : α) :
    ((word all name).write a).isWritable = true :=
  rfl

theorem isWritable_uint16 (n : UInt16) : (uint16.write n).isWritable = true := by
  have hlt := n.toNat_lt
  change Scalar.isWritable (.integer n.toNat) = true
  rw [Scalar.isWritable, Bool.and_eq_true, decide_eq_true_eq, decide_eq_true_eq]
  omega

theorem isWritable_uint64_iff (n : UInt64) :
    (uint64.write n).isWritable = true ↔ n.toNat < signBit := by
  change Scalar.isWritable (.integer n.toNat) = true ↔ _
  rw [Scalar.isWritable, Bool.and_eq_true, decide_eq_true_eq, decide_eq_true_eq, signBit]
  omega

end Codec

namespace Field

def Writable (f : Field α) (a : α) : Prop :=
  ∀ s ∈ f.write a, s.isWritable = true

/-- What is written of a field, or left out, is read back, and what was read or stood in can be
written. -/
structure Faithful (f : Field α) : Prop where
  read?_write : ∀ {a s}, f.write a = some s → f.read? s.value = some a
  absent_of_unwritten : ∀ {a}, f.write a = none → f.absent = some a
  writable_of_read? : ∀ {v a}, v.Fits → f.read? v = some a → f.Writable a
  writable_of_absent : ∀ {a}, f.absent = some a → f.Writable a

variable {c : Codec α} {name : String}

theorem writable_required_iff {a : α} :
    (required name c).Writable a ↔ (c.write a).isWritable = true :=
  ⟨fun h => h _ rfl, fun h _ hs => Option.some.inj hs ▸ h⟩

theorem writable_defaulted_iff {default a : α} :
    (defaulted name c default).Writable a ↔ (c.write a).isWritable = true :=
  ⟨fun h => h _ rfl, fun h _ hs => Option.some.inj hs ▸ h⟩

theorem writable_optional_iff {o : Option α} :
    (optional name c).Writable o ↔ ∀ a ∈ o, (c.write a).isWritable = true := by
  cases o with
  | none => exact iff_of_true nofun nofun
  | some a =>
      constructor
      · intro h b hb
        exact Option.some.inj hb ▸ h _ rfl
      · intro h s hs
        exact Option.some.inj hs ▸ h a rfl

theorem faithful_required (h : c.Faithful) : (required name c).Faithful where
  read?_write hwrite := Option.some.inj hwrite ▸ h.read?_write _
  absent_of_unwritten := nofun
  writable_of_read? hfits hread := writable_required_iff.mpr (h.isWritable_of_read? hfits hread)
  writable_of_absent := nofun

theorem faithful_defaulted {default : α} (h : c.Faithful)
    (hdefault : (c.write default).isWritable = true) : (defaulted name c default).Faithful where
  read?_write hwrite := Option.some.inj hwrite ▸ h.read?_write _
  absent_of_unwritten := nofun
  writable_of_read? hfits hread := writable_defaulted_iff.mpr (h.isWritable_of_read? hfits hread)
  writable_of_absent habsent := writable_defaulted_iff.mpr (Option.some.inj habsent ▸ hdefault)

theorem faithful_optional (h : c.Faithful) : (optional name c).Faithful where
  read?_write := by
    intro o s hwrite
    rcases Option.map_eq_some_iff.mp hwrite with ⟨a, rfl, rfl⟩
    exact congrArg (Option.map some) (h.read?_write a)
  absent_of_unwritten := by
    intro o hwrite
    rw [Option.map_eq_none_iff.mp hwrite]
    rfl
  writable_of_read? := by
    intro v o hfits hread
    rcases Option.map_eq_some_iff.mp hread with ⟨a, hinner, rfl⟩
    rw [writable_optional_iff]
    exact fun b hb => Option.some.inj hb ▸ h.isWritable_of_read? hfits hinner
  writable_of_absent := by
    intro o habsent
    cases habsent
    exact writable_optional_iff.mpr nofun

end Field

namespace Layout

def names {ρ : Type} : Layout ρ → List String
  | done => []
  | field f rest => f.name :: names rest

inductive Faithful : {ρ : Type} → Layout ρ → Prop where
  | done : Faithful done
  | field {α β : Type} {f : Field α} {rest : Layout β} (hf : f.Faithful)
      (hrest : Faithful rest) : Faithful (field f rest)

variable {l : Layout ρ} {values : ρ}

theorem names_entries (l : Layout ρ) (values : ρ) :
    ((l.entries values).map Prod.fst).Sublist l.names := by
  induction l with
  | done => exact List.nil_sublist _
  | field f rest ih =>
      rcases values with ⟨a, values⟩
      rw [entries, names]
      split
      · exact (ih values).cons_cons f.name
      · exact (ih values).cons f.name

/-- Whether the names of the fields differ and none needs quotes. -/
def WellNamed (l : Layout ρ) : Prop :=
  l.names.Nodup ∧ ∀ name ∈ l.names, IsBare name

instance (l : Layout ρ) : Decidable l.WellNamed :=
  inferInstanceAs (Decidable (_ ∧ _))

theorem WellNamed.bare (h : l.WellNamed) : ∀ e ∈ l.entries values, IsBare e.1 :=
  fun e he => h.2 e.1 ((names_entries l values).subset (List.mem_map_of_mem he))

theorem WellNamed.distinct (h : l.WellNamed) : ((l.entries values).map Prod.fst).Nodup :=
  (names_entries l values).nodup h.1

theorem lookup_members_eq_none {name : String} (h : name ∉ l.names) :
    (l.entries values).members.lookup name = none := by
  refine lookup_eq_none ?_
  rw [Entries.members, List.map_map]
  exact fun hmem => h ((names_entries l values).subset hmem)

theorem ofMembers?_of_lookup (hl : l.Faithful) (hnames : l.names.Nodup)
    (hlookup : ∀ name ∈ l.names, ms.lookup name = (l.entries values).members.lookup name) :
    l.ofMembers? ms = some values := by
  induction hl with
  | done => rfl
  | field hf hrest ih =>
      rename_i f rest
      rcases values with ⟨a, values⟩
      rcases List.nodup_cons.mp hnames with ⟨hname, hrestNames⟩
      have habsent : (rest.entries values).members.lookup f.name = none :=
        lookup_members_eq_none hname
      have hfirst : f.ofMember? ms = some a := by
        rw [Field.ofMember?, hlookup f.name List.mem_cons_self, entries]
        cases hwrite : f.write a with
        | none =>
            dsimp only
            rw [habsent]
            exact hf.absent_of_unwritten hwrite
        | some s =>
            rw [Entries.members, List.map_cons, List.lookup_cons_self]
            exact hf.read?_write hwrite
      have hrestLookup : ∀ name ∈ rest.names,
          ms.lookup name = (rest.entries values).members.lookup name := by
        intro name hmem
        have hne : (name == f.name) = false := by
          rw [beq_eq_false_iff_ne]
          rintro rfl
          exact hname hmem
        rw [hlookup name (List.mem_cons_of_mem _ hmem), entries]
        split
        · rw [Entries.members, List.map_cons, List.lookup_cons, hne]
          rfl
        · rfl
      rw [ofMembers?, hfirst]
      dsimp only [Option.bind_eq_bind, Option.bind_some]
      rw [ih hrestNames hrestLookup]
      rfl

theorem ofValue?_members (hl : l.Faithful) (hnames : l.WellNamed) :
    l.ofValue? (.table .header (l.entries values).members) = some values :=
  ofMembers?_of_lookup hl hnames.1 (fun _ _ => rfl)

/-!
# What was read can be written
-/

def Writable (l : Layout ρ) (values : ρ) : Prop :=
  ∀ e ∈ l.entries values, e.2.isWritable = true

theorem writable_done : done.Writable () :=
  fun _ he => absurd he List.not_mem_nil

theorem writable_field_iff {β : Type} {f : Field α} {rest : Layout β} {a : α} {values : β} :
    (field f rest).Writable (a, values) ↔ f.Writable a ∧ rest.Writable values := by
  rw [Writable, Field.Writable, entries]
  cases f.write a with
  | none => exact (and_iff_right nofun).symm
  | some s =>
      rw [List.forall_mem_cons]
      exact and_congr_left' ⟨fun h _ hs => Option.some.inj hs ▸ h, fun h => h s rfl⟩

theorem fits_of_lookup {name : String} (hms : ms.Fits) (h : ms.lookup name = some v) : v.Fits := by
  rcases List.lookup_eq_some_iff.mp h with ⟨before, behind, rfl, _⟩
  exact hms (name, v) (List.mem_append_right before List.mem_cons_self)

theorem writable_of_ofMembers? (hl : l.Faithful) (hms : ms.Fits)
    (h : l.ofMembers? ms = some values) : l.Writable values := by
  induction hl with
  | done => exact writable_done
  | field hf hrest ih =>
      rcases Option.bind_eq_some_iff.mp h with ⟨a, hfirst, h⟩
      rcases Option.bind_eq_some_iff.mp h with ⟨later, hlater, h⟩
      cases h
      refine writable_field_iff.mpr ⟨?_, ih hlater⟩
      rw [Field.ofMember?] at hfirst
      split at hfirst
      · rename_i hlookup
        exact hf.writable_of_read? (fits_of_lookup hms hlookup) hfirst
      · exact hf.writable_of_absent hfirst

theorem writable_of_ofItems? (hl : l.Faithful) {items : List Value} (hitems : ∀ v ∈ items, v.Fits)
    (h : l.ofItems? items = some values) : l.Writable values := by
  induction hl generalizing items with
  | done => exact writable_done
  | field hf hrest ih =>
      cases items with
      | nil =>
          rcases Option.bind_eq_some_iff.mp h with ⟨a, hfirst, h⟩
          rcases Option.bind_eq_some_iff.mp h with ⟨later, hlater, h⟩
          cases h
          exact writable_field_iff.mpr ⟨hf.writable_of_absent hfirst, ih hitems hlater⟩
      | cons v items =>
          rw [List.forall_mem_cons] at hitems
          rcases Option.bind_eq_some_iff.mp h with ⟨a, hfirst, h⟩
          rcases Option.bind_eq_some_iff.mp h with ⟨later, hlater, h⟩
          cases h
          have hwritable := hf.writable_of_read? hitems.1 hfirst
          exact writable_field_iff.mpr ⟨hwritable, ih hitems.2 hlater⟩

theorem writable_of_ofValue? (hl : l.Faithful) (hv : v.Fits) (h : l.ofValue? v = some values) :
    l.Writable values := by
  cases hv with
  | table hms => exact writable_of_ofMembers? hl hms h
  | array hitems => exact writable_of_ofItems? hl hitems h
  | tables hitems =>
      refine writable_of_ofItems? hl ?_ h
      rw [List.forall_mem_map]
      exact fun ms hms => .table (hitems ms hms)
  | moment s => exact writable_of_ofMembers? hl Members.fits_nil h
  | _ => cases h

end Layout
end Toml
end FleetBridge
