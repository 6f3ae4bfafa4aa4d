import FleetBridge.Toml.Document
import FleetBridge.Toml.Page

/-!
# Whole numbers of a document

A whole number that does not have 64 bits is not read.  So what a document holds can be written
again, however deep in its tables and arrays it stands.
-/

namespace FleetBridge
namespace Toml

inductive Value.Fits : Value → Prop where
  | text (s : String) : Fits (.text s)
  | integer {i : Int} (h : (Scalar.integer i).isWritable = true) : Fits (.integer i)
  | float (x : Float) : Fits (.float x)
  | bool (b : Bool) : Fits (.bool b)
  | moment (s : String) : Fits (.moment s)
  | array {items : List Value} (h : ∀ v ∈ items, Fits v) : Fits (.array items)
  | table {origin : Origin} {members : List (String × Value)} (h : ∀ m ∈ members, Fits m.2) :
      Fits (.table origin members)
  | tables {items : List (List (String × Value))} (h : ∀ ms ∈ items, ∀ m ∈ ms, Fits m.2) :
      Fits (.tables items)

def Members.Fits (ms : Members) : Prop :=
  ∀ m ∈ ms, m.2.Fits

theorem Members.fits_nil : Members.Fits [] :=
  fun _ hm => absurd hm List.not_mem_nil

variable {s rest w : List Char} {v : Value} {ms found before : Members} {i : Int}

/-!
# Values
-/

theorem isWritable_natCast {n : Nat} (h : n < signBit) :
    (Scalar.integer (n : Int)).isWritable = true := by
  rw [signBit] at h
  rw [Scalar.isWritable, Bool.and_eq_true, decide_eq_true_eq, decide_eq_true_eq]
  omega

theorem isWritable_negNatCast {n : Nat} (h : n ≤ signBit) :
    (Scalar.integer (-(n : Int))).isWritable = true := by
  rw [signBit] at h
  rw [Scalar.isWritable, Bool.and_eq_true, decide_eq_true_eq, decide_eq_true_eq]
  omega

theorem isWritable_of_basedInteger? {base : Nat} (h : basedInteger? base s = some i) :
    (Scalar.integer i).isWritable = true := by
  rcases Option.bind_eq_some_iff.mp h with ⟨cs, _, h⟩
  dsimp only at h
  split at h
  · rename_i hlt
    cases h
    exact isWritable_natCast hlt
  · cases h

theorem isWritable_of_integer? (h : integer? s = some i) :
    (Scalar.integer i).isWritable = true := by
  rw [integer?.eq_def] at h
  split at h
  · exact isWritable_of_basedInteger? h
  · exact isWritable_of_basedInteger? h
  · exact isWritable_of_basedInteger? h
  · generalize sign s = signed at h
    rcases signed with ⟨negative, body⟩
    rcases Option.bind_eq_some_iff.mp h with ⟨ds, _, h⟩
    dsimp only at h
    split at h
    · split at h
      · rename_i hle
        cases h
        exact isWritable_negNatCast hle
      · cases h
    · split at h
      · rename_i hlt
        cases h
        exact isWritable_natCast hlt
      · cases h

theorem fits_of_ofWord? (h : ofWord? w = some v) : v.Fits := by
  rw [ofWord?] at h
  split at h
  · cases h
    exact .bool true
  split at h
  · cases h
    exact .bool false
  split at h
  · cases h
    exact .moment _
  split at h
  · rename_i hread
    cases h
    exact .integer (isWritable_of_integer? hread)
  · rcases Option.map_eq_some_iff.mp h with ⟨x, _, rfl⟩
    exact .float x

theorem fits_of_word? (h : word? s = some (v, rest)) : v.Fits := by
  rw [word?] at h
  split at h
  · cases h
    exact .moment _
  · rcases Option.map_eq_some_iff.mp h with ⟨w, hw, heq⟩
    cases heq
    exact fits_of_ofWord? hw

/-!
# Tables
-/

/-- A change that makes a value that can be written of one that can, or of nothing. -/
def Keeps (change : Option Value → Option Value) : Prop :=
  ∀ o v, (∀ w ∈ o, w.Fits) → change o = some v → v.Fits

theorem Members.Fits.alter {name : String} {change : Option Value → Option Value}
    (h : ms.Fits) (hchange : Keeps change) (halter : Members.alter name change ms = some found) :
    found.Fits := by
  induction ms generalizing found with
  | nil =>
      rcases Option.map_eq_some_iff.mp halter with ⟨v, hv, rfl⟩
      exact List.forall_mem_singleton.mpr (hchange none v nofun hv)
  | cons m ms ih =>
      rw [Members.Fits, List.forall_mem_cons] at h
      rw [Members.alter] at halter
      split at halter
      · rcases Option.map_eq_some_iff.mp halter with ⟨v, hv, rfl⟩
        have hnew := hchange (some m.2) v (fun w hw => Option.some.inj hw ▸ h.1) hv
        exact List.forall_mem_cons.mpr ⟨hnew, h.2⟩
      · rcases Option.map_eq_some_iff.mp halter with ⟨later, hlater, rfl⟩
        exact List.forall_mem_cons.mpr ⟨h.1, ih h.2 hlater⟩

theorem Value.Fits.withLast {items items' : List Members} {last last' : Members}
    (h : (Value.tables items).Fits) (hitems : items.reverse = last :: items')
    (hlast : last.Fits → last'.Fits) : (Value.tables (items'.reverse ++ [last'])).Fits := by
  cases h with
  | tables h =>
      have hitems : items = items'.reverse ++ [last] := by
        rw [← List.reverse_cons, ← hitems, List.reverse_reverse]
      rw [hitems, List.forall_mem_append, List.forall_mem_singleton] at h
      refine .tables ?_
      rw [List.forall_mem_append, List.forall_mem_singleton]
      exact ⟨h.1, hlast h.2⟩

theorem fits_of_inside {change : Members → Option Members} {path : List String}
    (hchange : ∀ ms found, ms.Fits → change ms = some found → found.Fits) (h : ms.Fits)
    (hinside : Members.inside change path ms = some found) : found.Fits := by
  induction path generalizing ms found with
  | nil => exact hchange ms found h hinside
  | cons part path ih =>
      refine h.alter ?_ hinside
      intro o v ho hv
      dsimp only at hv
      split at hv
      · rcases Option.map_eq_some_iff.mp hv with ⟨sub, hsub, rfl⟩
        exact .table (ih Members.fits_nil hsub)
      · cases hv
      · rcases Option.map_eq_some_iff.mp hv with ⟨sub, hsub, rfl⟩
        cases ho _ rfl with
        | table ho => exact .table (ih ho hsub)
      · split at hv
        · cases hv
        · rename_i hitems
          rcases Option.map_eq_some_iff.mp hv with ⟨sub, hsub, rfl⟩
          exact (ho _ rfl).withLast hitems (fun hlast => ih hlast hsub)
      · cases hv

theorem fits_of_assign {name : String} {direct : Bool} {path : List String} (hv : v.Fits)
    (h : ms.Fits) (hassign : Members.assign v name direct path ms = some found) :
    found.Fits := by
  induction path generalizing direct ms found with
  | nil =>
      rw [Members.assign] at hassign
      split at hassign
      · refine h.alter ?_ hassign
        intro o w ho hw
        dsimp only at hw
        split at hw
        · exact Option.some.inj hw ▸ hv
        · cases hw
      · cases hassign
  | cons part path ih =>
      rw [Members.assign] at hassign
      refine h.alter ?_ hassign
      intro o w ho hw
      dsimp only at hw
      split at hw
      · rcases Option.map_eq_some_iff.mp hw with ⟨sub, hsub, rfl⟩
        exact .table (ih Members.fits_nil hsub)
      · rcases Option.map_eq_some_iff.mp hw with ⟨sub, hsub, rfl⟩
        cases ho _ rfl with
        | table ho => exact .table (ih ho hsub)
      · rcases Option.map_eq_some_iff.mp hw with ⟨sub, hsub, rfl⟩
        cases ho _ rfl with
        | table ho => exact .table (ih ho hsub)
      · split at hw
        · cases hw
        · rename_i hitems
          rcases Option.map_eq_some_iff.mp hw with ⟨sub, hsub, rfl⟩
          exact (ho _ rfl).withLast hitems (fun hlast => ih hlast hsub)
      · cases hw

theorem fits_of_openTable {name : String} (h : ms.Fits)
    (hopen : Members.openTable name ms = some found) : found.Fits := by
  refine h.alter ?_ hopen
  intro o v ho hv
  dsimp only at hv
  split at hv
  · cases hv
    exact .table nofun
  · cases hv
    cases ho _ rfl with
    | table ho => exact .table ho
  · cases hv

theorem fits_of_openNext {name : String} (h : ms.Fits)
    (hopen : Members.openNext name ms = some found) : found.Fits := by
  refine h.alter ?_ hopen
  intro o v ho hv
  dsimp only at hv
  split at hv
  · cases hv
    exact .tables (List.forall_mem_singleton.mpr nofun)
  · cases hv
    cases ho _ rfl with
    | tables ho =>
        refine .tables ?_
        rw [List.forall_mem_append, List.forall_mem_singleton]
        exact ⟨ho, nofun⟩
  · cases hv

/-!
# Values in brackets and braces
-/

/-- What is read with so much fuel can be written. -/
structure Sound (fuel : Nat) : Prop where
  value : ∀ {room s v rest}, value? fuel room s = some (v, rest) → v.Fits
  items : ∀ {room s vs rest}, items? fuel room s = some (vs, rest) → ∀ v ∈ vs, v.Fits
  pairs : ∀ {room before s ms rest}, Members.Fits before →
    pairs? fuel room before s = some (ms, rest) → Members.Fits ms

variable {fuel room : Nat}

theorem Sound.value_succ (h : Sound fuel) (hread : value? (fuel + 1) room s = some (v, rest)) :
    v.Fits := by
  rw [value?.eq_def] at hread
  dsimp only at hread
  split at hread
  · rcases Option.map_eq_some_iff.mp hread with ⟨_, _, heq⟩
    cases heq
    exact .text _
  · rcases Option.map_eq_some_iff.mp hread with ⟨_, _, heq⟩
    cases heq
    exact .text _
  · cases hread
  · cases hread
  · rcases Option.map_eq_some_iff.mp hread with ⟨_, hitems, heq⟩
    cases heq
    exact .array (h.items hitems)
  · split at hread
    · cases hread
      exact .table Members.fits_nil
    · rcases Option.map_eq_some_iff.mp hread with ⟨_, hpairs, heq⟩
      cases heq
      exact .table (h.pairs Members.fits_nil hpairs)
  · exact fits_of_word? hread

theorem Sound.items_succ (h : Sound fuel) {vs : List Value}
    (hread : items? (fuel + 1) room s = some (vs, rest)) : ∀ v ∈ vs, v.Fits := by
  rw [items?.eq_def] at hread
  dsimp only at hread
  split at hread
  · cases hread
  · cases hread
    exact fun v hv => absurd hv List.not_mem_nil
  · split at hread
    · cases hread
    · rename_i hvalue
      split at hread
      · cases hread
        exact List.forall_mem_singleton.mpr (h.value hvalue)
      · rcases Option.map_eq_some_iff.mp hread with ⟨_, hitems, heq⟩
        cases heq
        exact List.forall_mem_cons.mpr ⟨h.value hvalue, h.items hitems⟩
      · cases hread

theorem Sound.pairs_succ (h : Sound fuel) (hbefore : before.Fits)
    (hread : pairs? (fuel + 1) room before s = some (ms, rest)) : ms.Fits := by
  rw [pairs?.eq_def] at hread
  dsimp only at hread
  split at hread
  · split at hread
    · cases hread
    · rename_i hvalue
      split at hread
      · rename_i hassign _
        cases hread
        exact fits_of_assign (h.value hvalue) hbefore hassign
      · rename_i hassign _
        exact h.pairs (fits_of_assign (h.value hvalue) hbefore hassign) hread
      · cases hread
  · cases hread

theorem sound (fuel : Nat) : Sound fuel := by
  induction fuel with
  | zero => exact { value := nofun, items := nofun, pairs := nofun }
  | succ fuel ih =>
      exact { value := ih.value_succ, items := ih.items_succ, pairs := ih.pairs_succ }

/-!
# Documents
-/

def Statement.Fits : Statement → Prop
  | assignment _ v => v.Fits
  | header _ => True
  | nextHeader _ => True

theorem fits_of_statement? {statement : Statement}
    (h : statement? s = some (statement, rest)) : statement.Fits := by
  rw [statement?.eq_def] at h
  split at h
  · rcases Option.bind_eq_some_iff.mp h with ⟨_, _, h⟩
    rcases Option.bind_eq_some_iff.mp h with ⟨_, _, h⟩
    rcases Option.bind_eq_some_iff.mp h with ⟨_, _, h⟩
    cases h
    trivial
  · rcases Option.bind_eq_some_iff.mp h with ⟨_, _, h⟩
    rcases Option.bind_eq_some_iff.mp h with ⟨_, _, h⟩
    rcases Option.bind_eq_some_iff.mp h with ⟨_, _, h⟩
    cases h
    trivial
  · rcases Option.bind_eq_some_iff.mp h with ⟨_, _, h⟩
    rcases Option.bind_eq_some_iff.mp h with ⟨_, _, h⟩
    rcases Option.bind_eq_some_iff.mp h with ⟨_, hvalue, h⟩
    rcases Option.bind_eq_some_iff.mp h with ⟨_, _, h⟩
    cases h
    exact (sound _).value hvalue

theorem fits_of_statements? {statements : List Statement}
    (h : statements? fuel s = some statements) : ∀ st ∈ statements, st.Fits := by
  induction fuel generalizing s statements with
  | zero => cases h
  | succ fuel ih =>
      rw [statements?] at h
      split at h
      · cases h
        exact fun st hst => absurd hst List.not_mem_nil
      · rcases Option.bind_eq_some_iff.mp h with ⟨_, _, h⟩
        exact ih h
      · exact ih h
      · exact ih h
      · rcases Option.bind_eq_some_iff.mp h with ⟨_, hstatement, h⟩
        rcases Option.bind_eq_some_iff.mp h with ⟨_, hlater, h⟩
        cases h
        exact List.forall_mem_cons.mpr ⟨fits_of_statement? hstatement, ih hlater⟩

theorem fits_of_add {d d' : Document} {statement : Statement} (hd : d.root.Fits)
    (hstatement : statement.Fits) (h : d.add statement = some d') : d'.root.Fits := by
  cases statement with
  | assignment key v =>
      rcases Option.map_eq_some_iff.mp h with ⟨root, hroot, rfl⟩
      exact fits_of_inside (fun ms found hms => fits_of_assign hstatement hms) hd hroot
  | header key =>
      rcases Option.map_eq_some_iff.mp h with ⟨root, hroot, rfl⟩
      exact fits_of_inside (fun ms found hms => fits_of_openTable hms) hd hroot
  | nextHeader key =>
      rcases Option.map_eq_some_iff.mp h with ⟨root, hroot, rfl⟩
      exact fits_of_inside (fun ms found hms => fits_of_openNext hms) hd hroot

theorem fits_of_foldlM {d d' : Document} {statements : List Statement} (hd : d.root.Fits)
    (hstatements : ∀ st ∈ statements, st.Fits)
    (h : statements.foldlM Document.add d = some d') : d'.root.Fits := by
  induction statements generalizing d with
  | nil =>
      cases h
      exact hd
  | cons statement statements ih =>
      rw [List.forall_mem_cons] at hstatements
      rw [List.foldlM_cons] at h
      rcases Option.bind_eq_some_iff.mp h with ⟨next, hnext, h⟩
      exact ih (fits_of_add hd hstatements.1 hnext) hstatements.2 h

theorem fits_of_ofText? {text : String} (h : Members.ofText? text = some ms) : ms.Fits := by
  rw [Members.ofText?] at h
  rcases Option.bind_eq_some_iff.mp h with ⟨statements, hstatements, h⟩
  rcases Option.bind_eq_some_iff.mp h with ⟨document, hdocument, h⟩
  cases h
  exact fits_of_foldlM Members.fits_nil (fits_of_statements? hstatements) hdocument

end Toml
end FleetBridge
