import FleetBridge.Json.Value
import FleetBridge.Proofs.Json.Term

/-!
# Reading values back

A value is read back from the term it is written as if its members stand in
ascending order, if there is room for its nesting, and if its doubles read back.
Every value that is read has its members in that order and nests no deeper than
there was room.
-/

namespace FleetBridge
namespace Json

/-! # Members in ascending order -/

section Members

variable {α : Type} {name : String} {v : α} {ms : List (String × α)}

def Ascending (ms : List (String × α)) : Prop :=
  ms.Pairwise (fun m n => m.1 < n.1)

theorem insertMember_of_forall_lt (h : ∀ m ∈ ms, m.1 < name) :
    insertMember name v ms = ms ++ [(name, v)] := by
  induction ms with
  | nil => rfl
  | cons m ms ih =>
      obtain ⟨n, w⟩ := m
      have hn : n < name := h (n, w) List.mem_cons_self
      have hlt : ¬ (name < n) := String.lt_asymm hn
      have hne : ¬ (name = n) := by
        rintro rfl
        exact String.lt_irrefl name hn
      have htail := ih (fun m hm => h m (List.mem_cons_of_mem _ hm))
      simp only [insertMember, hlt, if_false, beq_iff_eq, hne, htail, List.cons_append]

theorem insertMember_of_ascending {before : List (String × α)} {m : String × α}
    (h : Ascending (before ++ m :: ms)) : insertMember m.1 m.2 before = before ++ [m] :=
  insertMember_of_forall_lt
    (fun k hk => (List.pairwise_append.mp h).2.2 k hk m List.mem_cons_self)

theorem eq_or_mem_of_mem_insertMember {m : String × α} (h : m ∈ insertMember name v ms) :
    m = (name, v) ∨ m ∈ ms := by
  induction ms with
  | nil => exact Or.inl (List.mem_singleton.mp h)
  | cons k ms ih =>
      obtain ⟨n, w⟩ := k
      rw [insertMember] at h
      split at h
      · exact (List.mem_cons.mp h)
      split at h
      · rcases List.mem_cons.mp h with hfirst | hrest
        · exact Or.inl hfirst
        · exact Or.inr (List.mem_cons_of_mem _ hrest)
      · rcases List.mem_cons.mp h with hfirst | hrest
        · exact Or.inr (hfirst ▸ List.mem_cons_self)
        · rcases ih hrest with hnew | hold
          · exact Or.inl hnew
          · exact Or.inr (List.mem_cons_of_mem _ hold)

theorem forall_mem_insertMember {p : String × α → Prop} (hnew : p (name, v))
    (hold : ∀ m ∈ ms, p m) : ∀ m ∈ insertMember name v ms, p m := by
  intro m hm
  rcases eq_or_mem_of_mem_insertMember hm with rfl | hm
  · exact hnew
  · exact hold m hm

theorem ascending_insertMember (h : Ascending ms) : Ascending (insertMember name v ms) := by
  induction ms with
  | nil => exact List.pairwise_singleton _ _
  | cons k ms ih =>
      obtain ⟨n, w⟩ := k
      obtain ⟨hfirst, hrest⟩ := List.pairwise_cons.mp h
      rw [insertMember]
      split
      case isTrue hlt =>
        refine List.pairwise_cons.mpr ⟨?_, h⟩
        intro m hm
        rcases List.mem_cons.mp hm with rfl | hm
        · exact hlt
        · exact String.lt_trans hlt (hfirst m hm)
      case isFalse hlt =>
        split
        case isTrue heq =>
          rw [eq_of_beq heq]
          exact List.pairwise_cons.mpr ⟨hfirst, hrest⟩
        case isFalse hne =>
          have hgt : n < name :=
            Std.lt_of_le_of_ne hlt (fun heq => hne (heq ▸ BEq.rfl))
          exact List.pairwise_cons.mpr ⟨forall_mem_insertMember hgt hfirst, ih hrest⟩

end Members

/-! # Doubles -/

/-- Whether the digits that are printed for a double, if it is finite, read back as
that double. -/
def ReadsBack (x : Float) : Prop :=
  ∀ h : x.isFinite = true, Number.ofLiteral? (Literal.ofFloat x) = some (.real x h)

namespace Number

def doubles : Number → List Float
  | integer _ _ => []
  | real x _ => [x]

theorem ofLiteral?_literal {n : Number} (h : ∀ x ∈ n.doubles, ReadsBack x) :
    ofLiteral? n.literal = some n := by
  cases n with
  | integer i hi => exact ofLiteral?_ofInt hi
  | real x hx => exact h x List.mem_cons_self hx

end Number

namespace Value

mutual

def doubles : Value → List Float
  | null => []
  | bool _ => []
  | number n => n.doubles
  | string _ => []
  | array items => itemDoubles items
  | object members => memberDoubles members

def itemDoubles : List Value → List Float
  | [] => []
  | v :: rest => doubles v ++ itemDoubles rest

def memberDoubles : List (String × Value) → List Float
  | [] => []
  | (_, v) :: rest => doubles v ++ memberDoubles rest

end

/-- Whether the members of every object in a value are in ascending order. -/
inductive IsOrdered : Value → Prop where
  | null : IsOrdered null
  | bool (b : Bool) : IsOrdered (bool b)
  | number (n : Number) : IsOrdered (number n)
  | string (s : String) : IsOrdered (string s)
  | array {items : List Value} (h : ∀ v ∈ items, IsOrdered v) : IsOrdered (array items)
  | object {members : List (String × Value)} (hnames : Ascending members)
      (h : ∀ m ∈ members, IsOrdered m.2) : IsOrdered (object members)

theorem itemTerms_eq (items : List Value) : itemTerms items = items.map toTerm := by
  induction items with
  | nil => rfl
  | cons v items ih => rw [itemTerms, ih, List.map_cons]

theorem memberTerms_eq (members : List (String × Value)) :
    memberTerms members = members.map (fun m => (Symbol.ofText m.1, toTerm m.2)) := by
  induction members with
  | nil => rfl
  | cons m members ih => rw [memberTerms, ih, List.map_cons]

/-! # Written values -/

mutual

theorem isUnbroken_toTerm (v : Value) : v.toTerm.IsUnbroken := by
  cases v with
  | null =>
      intro k hk
      rw [List.mem_singleton.mp hk]
      trivial
  | bool b =>
      intro k hk
      rw [List.mem_singleton.mp hk]
      trivial
  | number n =>
      intro k hk
      rw [List.mem_singleton.mp hk]
      trivial
  | string s => exact Term.isUnbroken_text s
  | array items => exact Term.isUnbroken_array (isUnbroken_itemTerms items)
  | object members => exact Term.isUnbroken_object (isUnbroken_memberTerms members)

theorem isUnbroken_itemTerms (items : List Value) : ∀ t ∈ itemTerms items, t.IsUnbroken := by
  cases items with
  | nil =>
      intro t ht
      cases ht
  | cons v items =>
      exact List.forall_mem_cons.mpr ⟨isUnbroken_toTerm v, isUnbroken_itemTerms items⟩

theorem isUnbroken_memberTerms (members : List (String × Value)) :
    ∀ m ∈ memberTerms members, (∀ x ∈ m.1, x ≠ Symbol.broken) ∧ m.2.IsUnbroken := by
  cases members with
  | nil =>
      intro m hm
      cases hm
  | cons m members =>
      obtain ⟨name, v⟩ := m
      refine List.forall_mem_cons.mpr ⟨⟨?_, isUnbroken_toTerm v⟩, isUnbroken_memberTerms members⟩
      exact fun x hx => Symbol.ne_broken_of_mem_ofText hx

end

mutual

theorem ofTerm?_toTerm {v : Value} {room : Nat} (hordered : v.IsOrdered)
    (hdepth : v.toTerm.depth ≤ room) (hback : ∀ x ∈ v.doubles, ReadsBack x) :
    ofTerm? room v.toTerm = some v := by
  cases v with
  | null => rw [toTerm, ofTerm?]
  | bool b => rw [toTerm, ofTerm?]
  | number n => rw [toTerm, ofTerm?, Number.ofLiteral?_literal hback, Option.map_some]
  | string s => rw [toTerm, Term.text, ofTerm?, Symbol.text?_ofText, Option.map_some]
  | array items =>
      cases hordered with
      | array hitems =>
          obtain ⟨room, rfl⟩ := Nat.exists_eq_add_of_le' (Nat.le_trans (Nat.succ_pos _) hdepth)
          have hinner := ofItems?_itemTerms hitems (Nat.le_of_succ_le_succ hdepth) hback
          rw [toTerm, ofTerm?, hinner, Option.map_some]
  | object members =>
      cases hordered with
      | object hnames hmembers =>
          obtain ⟨room, rfl⟩ := Nat.exists_eq_add_of_le' (Nat.le_trans (Nat.succ_pos _) hdepth)
          have hinner := ofMembers?_memberTerms [] hnames hmembers
            (Nat.le_of_succ_le_succ hdepth) hback
          rw [toTerm, ofTerm?, hinner, Option.map_some, List.nil_append]

theorem ofItems?_itemTerms {items : List Value} {room : Nat}
    (hordered : ∀ v ∈ items, v.IsOrdered) (hdepth : Term.itemsDepth (itemTerms items) ≤ room)
    (hback : ∀ x ∈ itemDoubles items, ReadsBack x) :
    ofItems? room (itemTerms items) = some items := by
  cases items with
  | nil => rfl
  | cons v items =>
      obtain ⟨hfirst, hrest⟩ := List.forall_mem_cons.mp hordered
      obtain ⟨hdepthFirst, hdepthRest⟩ := Nat.max_le.mp hdepth
      obtain ⟨hbackFirst, hbackRest⟩ := List.forall_mem_append.mp hback
      rw [itemTerms, ofItems?, ofTerm?_toTerm hfirst hdepthFirst hbackFirst,
        ofItems?_itemTerms hrest hdepthRest hbackRest]
      rfl

theorem ofMembers?_memberTerms (before : List (String × Value))
    {members : List (String × Value)} {room : Nat}
    (hnames : Ascending (before ++ members)) (hordered : ∀ m ∈ members, m.2.IsOrdered)
    (hdepth : Term.membersDepth (memberTerms members) ≤ room)
    (hback : ∀ x ∈ memberDoubles members, ReadsBack x) :
    ofMembers? room before (memberTerms members) = some (before ++ members) := by
  cases members with
  | nil => rw [memberTerms, ofMembers?, List.append_nil]
  | cons m members =>
      obtain ⟨name, v⟩ := m
      obtain ⟨hfirst, hrest⟩ := List.forall_mem_cons.mp hordered
      obtain ⟨hdepthFirst, hdepthRest⟩ := Nat.max_le.mp hdepth
      obtain ⟨hbackFirst, hbackRest⟩ := List.forall_mem_append.mp hback
      have hlast : insertMember name v before = before ++ [(name, v)] :=
        insertMember_of_ascending hnames
      rw [List.append_cons] at hnames
      have htail := ofMembers?_memberTerms _ hnames hrest hdepthRest hbackRest
      rw [memberTerms, ofMembers?, Symbol.text?_ofText,
        ofTerm?_toTerm hfirst hdepthFirst hbackFirst]
      simp only [Option.bind_eq_bind, Option.bind_some]
      rw [hlast, htail, List.append_assoc, List.singleton_append]

end

/-! # Values that are read -/

/-- What every value is that is read with that much room. -/
structure Lands (room : Nat) (v : Value) : Prop where
  ordered : v.IsOrdered
  depth_le : v.toTerm.depth ≤ room

theorem lands_array {room : Nat} {items : List Value} (h : ∀ v ∈ items, Lands room v) :
    Lands (room + 1) (array items) := by
  refine ⟨.array (fun v hv => (h v hv).ordered), Nat.succ_le_succ ?_⟩
  rw [itemTerms_eq]
  refine Term.itemsDepth_le_iff.mpr (List.forall_mem_map.mpr ?_)
  exact fun v hv => (h v hv).depth_le

theorem lands_object {room : Nat} {members : List (String × Value)}
    (hnames : Ascending members) (h : ∀ m ∈ members, Lands room m.2) :
    Lands (room + 1) (object members) := by
  refine ⟨.object hnames (fun m hm => (h m hm).ordered), Nat.succ_le_succ ?_⟩
  rw [memberTerms_eq]
  refine Term.membersDepth_le_iff.mpr (List.forall_mem_map.mpr ?_)
  exact fun m hm => (h m hm).depth_le

mutual

theorem lands_of_ofTerm? {room : Nat} {t : Term} {v : Value} (h : ofTerm? room t = some v) :
    Lands room v := by
  cases t with
  | null =>
      rw [ofTerm?] at h
      cases h
      exact ⟨.null, Nat.zero_le room⟩
  | bool b =>
      rw [ofTerm?] at h
      cases h
      exact ⟨.bool b, Nat.zero_le room⟩
  | number l =>
      rw [ofTerm?] at h
      obtain ⟨n, _, rfl⟩ := Option.map_eq_some_iff.mp h
      exact ⟨.number n, Nat.zero_le room⟩
  | string s =>
      rw [ofTerm?] at h
      obtain ⟨text, _, rfl⟩ := Option.map_eq_some_iff.mp h
      exact ⟨.string text, Nat.zero_le room⟩
  | array items =>
      cases room with
      | zero =>
          rw [ofTerm?] at h
          cases h
      | succ room =>
          rw [ofTerm?] at h
          obtain ⟨vs, hvs, rfl⟩ := Option.map_eq_some_iff.mp h
          exact lands_array (lands_of_ofItems? hvs)
  | object members =>
      cases room with
      | zero =>
          rw [ofTerm?] at h
          cases h
      | succ room =>
          rw [ofTerm?] at h
          obtain ⟨vs, hvs, rfl⟩ := Option.map_eq_some_iff.mp h
          have hempty : Ascending ([] : List (String × Value)) := List.Pairwise.nil
          obtain ⟨hnames, hvalues⟩ :=
            lands_of_ofMembers? hempty (fun m hm => absurd hm List.not_mem_nil) hvs
          exact lands_object hnames hvalues

theorem lands_of_ofItems? {room : Nat} {ts : List Term} {vs : List Value}
    (h : ofItems? room ts = some vs) : ∀ v ∈ vs, Lands room v := by
  cases ts with
  | nil =>
      cases h
      exact fun v hv => absurd hv List.not_mem_nil
  | cons t ts =>
      rw [ofItems?] at h
      obtain ⟨v, hv, h⟩ := Option.bind_eq_some_iff.mp h
      obtain ⟨vs, hvs, h⟩ := Option.bind_eq_some_iff.mp h
      cases h
      exact List.forall_mem_cons.mpr ⟨lands_of_ofTerm? hv, lands_of_ofItems? hvs⟩

theorem lands_of_ofMembers? {room : Nat} {ts : List (List Symbol × Term)}
    {before ms : List (String × Value)} (hnames : Ascending before)
    (hbefore : ∀ m ∈ before, Lands room m.2) (h : ofMembers? room before ts = some ms) :
    Ascending ms ∧ ∀ m ∈ ms, Lands room m.2 := by
  cases ts with
  | nil =>
      rw [ofMembers?] at h
      cases h
      exact ⟨hnames, hbefore⟩
  | cons t ts =>
      obtain ⟨n, t⟩ := t
      rw [ofMembers?] at h
      obtain ⟨name, _, h⟩ := Option.bind_eq_some_iff.mp h
      obtain ⟨v, hv, h⟩ := Option.bind_eq_some_iff.mp h
      exact lands_of_ofMembers? (ascending_insertMember hnames)
        (forall_mem_insertMember (lands_of_ofTerm? hv) hbefore) h

end

end Value
end Json
end FleetBridge
