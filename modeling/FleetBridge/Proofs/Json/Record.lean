import FleetBridge.Json.Record
import FleetBridge.Proofs.Json.Codec
import FleetBridge.Proofs.Lookup

/-!
# Faithful records

A record is read back from the object it is written as if each of its fields is,
if no two fields share a name, and if a member that is left out stands for what
the reader puts in its place.
-/

namespace FleetBridge
namespace Json

/-! # Fields -/

namespace Field

/-- Whether a reader puts the value in the place of what is not there. -/
def StandsIn {α : Type} (f : Field α) (a : α) : Prop :=
  f.absent = some a ∨ f.cutOff = some a

def find? {α : Type} (f : Field α) (room : Nat) (found : List (String × Term)) : Option α :=
  match found.lookup f.name with
  | some t => f.codec.read? room t
  | none => f.absent

/-- What a field promises: what stands in for it is normal, and a member is left out
only where the same value stands in. -/
structure Faithful {α : Type} (f : Field α) (doubles : α → List Float)
    (normal : α → Prop) (need : Nat) : Prop where
  codec : f.codec.Faithful doubles normal need
  absent_of_not_isWritten : ∀ a, f.isWritten a = false → f.absent = some a
  normal_of_standsIn : ∀ a, f.StandsIn a → normal a
  depth_le_of_standsIn : ∀ a, f.StandsIn a → (f.codec.write a).depth ≤ need

variable {α : Type} {c : Codec α} {doubles : α → List Float} {normal : α → Prop} {need : Nat}
  {name : String}

theorem not_standsIn_required {a : α} : ¬ (required name c).StandsIn a := by
  rintro (habsent | hcutOff)
  · cases habsent
  · cases hcutOff

theorem eq_none_of_standsIn_nullable {o : Option α} (h : (nullable name c).StandsIn o) :
    o = none := by
  rcases h with habsent | hcutOff
  · cases habsent
    rfl
  · cases hcutOff

theorem eq_none_of_standsIn_optional {o : Option α} (h : (optional name c).StandsIn o) :
    o = none := by
  rcases h with habsent | hcutOff
  · cases habsent
    rfl
  · cases hcutOff
    rfl

theorem eq_of_standsIn_defaulted {default a : α} (h : (defaulted name c default).StandsIn a) :
    a = default := by
  rcases h with habsent | hcutOff
  · cases habsent
    rfl
  · cases hcutOff
    rfl

theorem faithful_required (h : c.Faithful doubles normal need) :
    (required name c).Faithful doubles normal need where
  codec := h
  absent_of_not_isWritten _ hwritten := Bool.noConfusion hwritten
  normal_of_standsIn _ hstands := absurd hstands not_standsIn_required
  depth_le_of_standsIn _ hstands := absurd hstands not_standsIn_required

theorem faithful_nullable (h : c.Faithful doubles normal need)
    (hnull : ∀ a, normal a → c.write a ≠ .null) :
    (nullable name c).Faithful (fun o => o.toList.flatMap doubles) (fun o => ∀ a ∈ o, normal a)
      need where
  codec := h.option hnull
  absent_of_not_isWritten _ hwritten := Bool.noConfusion hwritten
  normal_of_standsIn o hstands := by
    rw [eq_none_of_standsIn_nullable hstands]
    exact fun a ha => absurd ha (Option.not_mem_none a)
  depth_le_of_standsIn o hstands := by
    rw [eq_none_of_standsIn_nullable hstands]
    exact Nat.zero_le need

theorem faithful_optional (h : c.Faithful doubles normal need)
    (hnull : ∀ a, normal a → c.write a ≠ .null) :
    (optional name c).Faithful (fun o => o.toList.flatMap doubles) (fun o => ∀ a ∈ o, normal a)
      need where
  codec := h.option hnull
  absent_of_not_isWritten o hwritten := by
    cases o with
    | none => rfl
    | some a => cases hwritten
  normal_of_standsIn o hstands := by
    rw [eq_none_of_standsIn_optional hstands]
    exact fun a ha => absurd ha (Option.not_mem_none a)
  depth_le_of_standsIn o hstands := by
    rw [eq_none_of_standsIn_optional hstands]
    exact Nat.zero_le need

theorem faithful_defaulted {default : α} (h : c.Faithful doubles normal need)
    (hnormal : normal default) (hdepth : (c.write default).depth ≤ need) :
    (defaulted name c default).Faithful doubles normal need where
  codec := h
  absent_of_not_isWritten _ hwritten := Bool.noConfusion hwritten
  normal_of_standsIn _ hstands := eq_of_standsIn_defaulted hstands ▸ hnormal
  depth_le_of_standsIn _ hstands := eq_of_standsIn_defaulted hstands ▸ hdepth

end Field

namespace Layout

def written {ρ : Type} : Layout ρ → ρ → List (String × Term)
  | done, _ => []
  | field f rest, (a, values) =>
      if f.isWritten a then (f.name, f.codec.write a) :: written rest values
      else written rest values

theorem members_eq {ρ : Type} (l : Layout ρ) (v : ρ) :
    l.members v = (l.written v).map (fun m => (Symbol.ofText m.1, m.2)) := by
  induction l with
  | done => rfl
  | field f rest ih =>
      obtain ⟨a, values⟩ := v
      rw [members, written]
      split
      · rw [ih, List.map_cons]
      · exact ih values

theorem names_written {ρ : Type} (l : Layout ρ) (v : ρ) :
    ((l.written v).map Prod.fst).Sublist l.names := by
  induction l with
  | done => exact List.nil_sublist _
  | field f rest ih =>
      obtain ⟨a, values⟩ := v
      rw [written, names]
      split
      · exact (ih values).cons_cons f.name
      · exact (ih values).cons f.name

theorem lookup_written_eq_none {ρ : Type} {l : Layout ρ} {v : ρ} {n : String}
    (h : n ∉ l.names) : (l.written v).lookup n = none :=
  lookup_eq_none (fun hmem => h ((names_written l v).subset hmem))

theorem hasRepeated_eq_false (names : List String) {found : List String} (h : found.Nodup) :
    hasRepeated names found = false := by
  have hcount (n : String) : found.count n ≤ 1 := List.nodup_iff_count.mp h n
  simp only [hasRepeated, List.any_eq_false, decide_eq_true_eq]
  intro n _
  have hn := hcount n
  omega

/-! # Reading field by field -/

section Reading

variable {α β : Type} {f : Field α} {rest : Layout β} {room : Nat} {a : α} {values : β}

theorem ofMembers?_field_eq_some_iff {found : List (String × Term)} :
    ofMembers? room found (field f rest) = some (a, values) ↔
      f.find? room found = some a ∧ ofMembers? room found rest = some values := by
  rw [ofMembers?, Field.find?]
  cases found.lookup f.name with
  | none => cases f.absent <;> cases ofMembers? room found rest <;> simp
  | some t =>
      dsimp only
      cases f.codec.read? room t <;> cases ofMembers? room found rest <;> simp

theorem ofItems?_field_cons_eq_some_iff {t : Term} {items : List Term} :
    ofItems? room (field f rest) (t :: items) = some (a, values) ↔
      f.codec.read? room t = some a ∧ ofItems? room rest items = some values := by
  rw [ofItems?]
  cases f.codec.read? room t <;> cases ofItems? room rest items <;> simp

theorem ofItems?_field_nil_eq_some_iff :
    ofItems? room (field f rest) [] = some (a, values) ↔
      f.cutOff = some a ∧ ofItems? room rest [] = some values := by
  rw [ofItems?]
  cases f.cutOff <;> cases ofItems? room rest [] <;> simp

end Reading

/-- Another layout is given the members that were written. -/
theorem read?_members {ρ σ : Type} (l : Layout ρ) (other : Layout σ) (v : ρ) (room : Nat) :
    other.read? (room + 1) (.object (l.members v)) =
      if hasRepeated other.names ((l.written v).map Prod.fst) then none
      else ofMembers? room (l.written v) other := by
  have hfound : (l.members v).mapM
      (fun m => (Symbol.text? m.1).map (fun n => (n, m.2))) = some (l.written v) := by
    rw [members_eq]
    apply Codec.mapM_map_eq_some
    intro m _
    rw [Symbol.text?_ofText, Option.map_some]
  have hread : other.read? (room + 1) (.object (l.members v)) =
      ((l.members v).mapM (fun m => (Symbol.text? m.1).map (fun n => (n, m.2)))).bind
        (fun found => if hasRepeated other.names (found.map Prod.fst) then none
          else ofMembers? room found other) := rfl
  rw [hread, hfound, Option.bind_some]

/-! # What is read -/

/-- What holds of every value that is read with that much room. -/
def Lands {ρ : Type} (l : Layout ρ) (normal : ρ → Prop) (need room : Nat) (v : ρ) : Prop :=
  normal v ∧ ∀ m ∈ l.written v, m.2.depth ≤ max need room

section Lands

variable {α β : Type} {f : Field α} {rest : Layout β} {fieldDoubles : α → List Float}
  {fieldNormal : α → Prop} {restNormal : β → Prop} {need room : Nat} {a : α} {values : β}

theorem lands_field (hnormal : fieldNormal a) (hdepth : (f.codec.write a).depth ≤ max need room)
    (hrest : Lands rest restNormal need room values) :
    Lands (field f rest) (fun v => fieldNormal v.1 ∧ restNormal v.2) need room (a, values) := by
  refine ⟨⟨hnormal, hrest.1⟩, ?_⟩
  rw [written]
  split
  · exact List.forall_mem_cons.mpr ⟨hdepth, hrest.2⟩
  · exact hrest.2

theorem lands_of_read? (hf : f.Faithful fieldDoubles fieldNormal need) {t : Term}
    (hread : f.codec.read? room t = some a) (hrest : Lands rest restNormal need room values) :
    Lands (field f rest) (fun v => fieldNormal v.1 ∧ restNormal v.2) need room (a, values) :=
  lands_field (hf.codec.normal_of_read? hread) (hf.codec.depth_le_of_read? hread) hrest

theorem lands_of_standsIn (hf : f.Faithful fieldDoubles fieldNormal need)
    (hstands : f.StandsIn a)
    (hrest : Lands rest restNormal need room values) :
    Lands (field f rest) (fun v => fieldNormal v.1 ∧ restNormal v.2) need room (a, values) :=
  lands_field (hf.normal_of_standsIn a hstands)
    (Nat.le_trans (hf.depth_le_of_standsIn a hstands) (Nat.le_max_left need room)) hrest

end Lands

/-! # Faithful layouts -/

inductive Faithful : {ρ : Type} → Layout ρ → (ρ → List Float) → (ρ → Prop) → Nat → Prop where
  | done {need : Nat} : Faithful done (fun _ => []) (fun _ => True) need
  | field {α β : Type} {f : Field α} {rest : Layout β} {doubles : α → List Float}
      {normal : α → Prop} {restDoubles : β → List Float} {restNormal : β → Prop} {need : Nat}
      (hf : f.Faithful doubles normal need)
      (hrest : Faithful rest restDoubles restNormal need) :
      Faithful (field f rest) (fun v => doubles v.1 ++ restDoubles v.2)
        (fun v => normal v.1 ∧ restNormal v.2) need

namespace Faithful

variable {ρ : Type} {l : Layout ρ} {doubles : ρ → List Float} {normal : ρ → Prop} {need : Nat}

theorem isUnbroken_written (h : l.Faithful doubles normal need) (v : ρ) :
    ∀ m ∈ l.written v, m.2.IsUnbroken := by
  induction h with
  | done => exact fun m hm => absurd hm List.not_mem_nil
  | field hf _ ih =>
      obtain ⟨a, values⟩ := v
      rw [written]
      split
      · exact List.forall_mem_cons.mpr ⟨hf.codec.isUnbroken_write a, ih values⟩
      · exact ih values

theorem ofMembers?_of_lookup_eq (h : l.Faithful doubles normal need) {v : ρ} {room : Nat}
    {found : List (String × Term)} (hnames : l.names.Nodup) (hnormal : normal v)
    (hdepth : ∀ m ∈ l.written v, m.2.depth ≤ room) (hback : ∀ x ∈ doubles v, ReadsBack x)
    (hfound : ∀ n ∈ l.names, found.lookup n = (l.written v).lookup n) :
    ofMembers? room found l = some v := by
  induction h generalizing found with
  | done => rfl
  | field hf hrest ih =>
      rename_i f rest _ _ _ _ _
      obtain ⟨a, values⟩ := v
      obtain ⟨hname, hrestNames⟩ := List.nodup_cons.mp hnames
      obtain ⟨hbackFirst, hbackRest⟩ := List.forall_mem_append.mp hback
      have habsent : (rest.written values).lookup f.name = none := lookup_written_eq_none hname
      have hfirst : f.find? room found = some a := by
        rw [Field.find?, hfound f.name List.mem_cons_self, written]
        rw [written] at hdepth
        cases hwritten : f.isWritten a with
        | true =>
            rw [hwritten] at hdepth
            simp only [if_true, List.lookup_cons_self]
            exact hf.codec.read?_write hnormal.1 (hdepth _ List.mem_cons_self) hbackFirst
        | false =>
            simp only [Bool.false_eq_true, if_false, habsent]
            exact hf.absent_of_not_isWritten a hwritten
      have hrestDepth : ∀ m ∈ rest.written values, m.2.depth ≤ room := by
        intro m hm
        apply hdepth
        rw [written]
        split
        · exact List.mem_cons_of_mem _ hm
        · exact hm
      have hrestFound : ∀ n ∈ rest.names, found.lookup n = (rest.written values).lookup n := by
        intro n hn
        have hne : (n == f.name) = false := by
          rw [beq_eq_false_iff_ne]
          rintro rfl
          exact hname hn
        rw [hfound n (List.mem_cons_of_mem _ hn), written]
        split
        · simp only [List.lookup_cons, hne]
        · rfl
      have htail := ih hrestNames hnormal.2 hrestDepth hbackRest hrestFound
      exact ofMembers?_field_eq_some_iff.mpr ⟨hfirst, htail⟩

/-- What is written by another layout is read if each field finds what it would write. -/
theorem read?_members_of_lookup_eq (h : l.Faithful doubles normal need) {v : ρ} {room : Nat}
    (hnames : l.names.Nodup) (hnormal : normal v)
    (hdepth : ∀ m ∈ l.written v, m.2.depth ≤ room) (hback : ∀ x ∈ doubles v, ReadsBack x)
    {σ : Type} {writer : Layout σ} {w : σ} (hwriter : writer.names.Nodup)
    (hfound : ∀ n ∈ l.names, (writer.written w).lookup n = (l.written v).lookup n) :
    l.read? (room + 1) (.object (writer.members w)) = some v := by
  have hnodup : ((writer.written w).map Prod.fst).Nodup := (names_written writer w).nodup hwriter
  rw [read?_members, hasRepeated_eq_false l.names hnodup]
  exact h.ofMembers?_of_lookup_eq hnames hnormal hdepth hback hfound

theorem read?_members_eq_some (h : l.Faithful doubles normal need) {v : ρ} {room : Nat}
    (hnames : l.names.Nodup) (hnormal : normal v)
    (hdepth : (Term.object (l.members v)).depth ≤ room) (hback : ∀ x ∈ doubles v, ReadsBack x) :
    l.read? room (.object (l.members v)) = some v := by
  obtain ⟨room, rfl⟩ := Nat.exists_eq_add_of_le' (Nat.le_trans (Nat.succ_pos _) hdepth)
  have hterms := Term.membersDepth_le_iff.mp (Nat.le_of_succ_le_succ hdepth)
  rw [members_eq, List.forall_mem_map] at hterms
  exact h.read?_members_of_lookup_eq hnames hnormal hterms hback hnames (fun _ _ => rfl)

theorem lands_of_ofMembers? (h : l.Faithful doubles normal need) {room : Nat}
    {found : List (String × Term)} {v : ρ} (hread : ofMembers? room found l = some v) :
    Lands l normal need room v := by
  induction h with
  | done => exact ⟨trivial, fun m hm => absurd hm List.not_mem_nil⟩
  | field hf hrest ih =>
      obtain ⟨a, values⟩ := v
      obtain ⟨hfirst, htail⟩ := ofMembers?_field_eq_some_iff.mp hread
      rw [Field.find?] at hfirst
      split at hfirst
      · exact lands_of_read? hf hfirst (ih htail)
      · exact lands_of_standsIn hf (Or.inl hfirst) (ih htail)

theorem lands_of_ofItems? (h : l.Faithful doubles normal need) {room : Nat}
    {items : List Term} {v : ρ} (hread : ofItems? room l items = some v) :
    Lands l normal need room v := by
  induction h generalizing items with
  | done => exact ⟨trivial, fun m hm => absurd hm List.not_mem_nil⟩
  | field hf hrest ih =>
      obtain ⟨a, values⟩ := v
      cases items with
      | nil =>
          obtain ⟨hfirst, htail⟩ := ofItems?_field_nil_eq_some_iff.mp hread
          exact lands_of_standsIn hf (Or.inr hfirst) (ih htail)
      | cons t items =>
          obtain ⟨hfirst, htail⟩ := ofItems?_field_cons_eq_some_iff.mp hread
          exact lands_of_read? hf hfirst (ih htail)

theorem exists_lands_of_read? (h : l.Faithful doubles normal need) {room : Nat} {t : Term}
    {v : ρ} (hread : l.read? room t = some v) :
    ∃ inner, room = inner + 1 ∧ Lands l normal need inner v := by
  cases room with
  | zero => cases hread
  | succ inner =>
      refine ⟨inner, rfl, ?_⟩
      cases t with
      | object ms =>
          obtain ⟨found, _, hread⟩ := Option.bind_eq_some_iff.mp hread
          split at hread
          · cases hread
          · exact h.lands_of_ofMembers? hread
      | array items => exact h.lands_of_ofItems? hread
      | _ => cases hread

theorem depth_members_le {room : Nat} {v : ρ} (h : Lands l normal need room v) :
    (Term.object (l.members v)).depth ≤ max (need + 1) (room + 1) := by
  have hdepth : Term.membersDepth (l.members v) ≤ max need room := by
    rw [members_eq]
    exact Term.membersDepth_le_iff.mpr (List.forall_mem_map.mpr h.2)
  have hobject : (Term.object (l.members v)).depth = Term.membersDepth (l.members v) + 1 := rfl
  omega

theorem codec {α : Type} (h : l.Faithful doubles normal need) {toFields : α → ρ}
    {ofFields : ρ → α} {recordDoubles : α → List Float} {recordNormal : α → Prop}
    (hnames : l.names.Nodup) (hto : ∀ v, toFields (ofFields v) = v)
    (hof : ∀ a, ofFields (toFields a) = a)
    (hdoubles : ∀ a, recordDoubles a = doubles (toFields a))
    (hnormal : ∀ a, recordNormal a ↔ normal (toFields a)) :
    (l.codec toFields ofFields).Faithful recordDoubles recordNormal (need + 1) where
  isUnbroken_write a := by
    apply Term.isUnbroken_object
    rw [members_eq, List.forall_mem_map]
    intro m hm
    exact ⟨fun x hx => Symbol.ne_broken_of_mem_ofText hx, h.isUnbroken_written _ m hm⟩
  read?_write {room a} ha hdepth hback := by
    have hread := h.read?_members_eq_some hnames ((hnormal a).mp ha) hdepth
      (hdoubles a ▸ hback)
    have hcodec : (l.codec toFields ofFields).read? room
        ((l.codec toFields ofFields).write a) = (some (toFields a)).map ofFields :=
      congrArg (Option.map ofFields) hread
    rw [hcodec, Option.map_some, hof]
  normal_of_read? hread := by
    obtain ⟨v, hv, rfl⟩ := Option.map_eq_some_iff.mp hread
    obtain ⟨inner, rfl, hlands⟩ := h.exists_lands_of_read? hv
    rw [hnormal, hto]
    exact hlands.1
  depth_le_of_read? hread := by
    obtain ⟨v, hv, rfl⟩ := Option.map_eq_some_iff.mp hread
    obtain ⟨inner, rfl, hlands⟩ := h.exists_lands_of_read? hv
    have hdepth := depth_members_le hlands
    simp only [Layout.codec, hto]
    exact hdepth

end Faithful

/-! # Records that lack a field -/

/-- The fields without which no object is such a record. -/
def required {ρ : Type} : Layout ρ → List String
  | done => []
  | field f rest =>
      if f.absent.isNone then f.name :: required rest else required rest

theorem ofMembers?_eq_none {ρ : Type} {l : Layout ρ} {room : Nat} {found : List (String × Term)}
    {n : String} (hn : n ∈ l.required) (hfound : found.lookup n = none) :
    ofMembers? room found l = none := by
  induction l with
  | done => cases hn
  | field f rest ih =>
      rw [Option.eq_none_iff_forall_ne_some]
      rintro ⟨a, values⟩ hread
      obtain ⟨hfirst, htail⟩ := ofMembers?_field_eq_some_iff.mp hread
      rw [required] at hn
      split at hn
      case isTrue habsent =>
        rcases List.mem_cons.mp hn with rfl | hn
        · rw [Field.find?, hfound, Option.isNone_iff_eq_none.mp habsent] at hfirst
          cases hfirst
        · rw [ih hn] at htail
          cases htail
      case isFalse =>
        rw [ih hn] at htail
        cases htail

/-- A record is not read as one of another type that asks for a field it has not got. -/
theorem read?_members_eq_none {ρ σ : Type} {l : Layout ρ} {other : Layout σ} {v : ρ} {room : Nat}
    {n : String} (hn : n ∈ other.required) (hmissing : n ∉ l.names) :
    other.read? room (.object (l.members v)) = none := by
  cases room with
  | zero => rfl
  | succ room =>
      rw [read?_members, ofMembers?_eq_none hn (lookup_written_eq_none hmissing), ite_self]

end Layout
end Json
end FleetBridge
