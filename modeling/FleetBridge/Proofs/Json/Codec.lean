import FleetBridge.Json.Codec
import FleetBridge.Proofs.Decimal.Finite
import FleetBridge.Proofs.Json.Value
import FleetBridge.Proofs.Time.Lenient
import FleetBridge.Proofs.Uuid

/-!
# Faithful codecs

A codec is faithful if what it writes can be read again and gives the value that
was written.  It need not be so for every value, but for those that are normal,
and every value that is read is normal.

Reading looks at the room for nesting.  A value that was read with some room is
written with no deeper nesting, but for defaults, which may nest although nothing
was read; how deep these nest is known beforehand.
-/

namespace FleetBridge
namespace Json
namespace Codec

structure Faithful {α : Type} (c : Codec α) (doubles : α → List Float) (normal : α → Prop)
    (need : Nat) : Prop where
  isUnbroken_write : ∀ a, (c.write a).IsUnbroken
  read?_write : ∀ {room a}, normal a → (c.write a).depth ≤ room →
    (∀ x ∈ doubles a, ReadsBack x) → c.read? room (c.write a) = some a
  normal_of_read? : ∀ {room t a}, c.read? room t = some a → normal a
  depth_le_of_read? : ∀ {room t a}, c.read? room t = some a → (c.write a).depth ≤ max need room

variable {α : Type} {c : Codec α} {doubles : α → List Float} {normal : α → Prop} {need : Nat}

theorem Faithful.mono {more : Nat} (h : c.Faithful doubles normal need) (hle : need ≤ more) :
    c.Faithful doubles normal more where
  isUnbroken_write := h.isUnbroken_write
  read?_write := h.read?_write
  normal_of_read? := h.normal_of_read?
  depth_le_of_read? hread := by
    have hdepth := h.depth_le_of_read? hread
    omega

/-- A type without doubles of which every value is normal. -/
abbrev Plain (c : Codec α) (need : Nat) : Prop :=
  c.Faithful (fun _ => []) (fun _ => True) need

/-! # Texts and numbers -/

theorem isUnbroken_number (l : Literal) : (Term.number l).IsUnbroken := by
  intro k hk
  rw [List.mem_singleton.mp hk]
  trivial

theorem plain_text : Plain text need where
  isUnbroken_write := Term.isUnbroken_text
  read?_write _ _ _ := Symbol.text?_ofText _
  normal_of_read? _ := trivial
  depth_le_of_read? _ := Nat.zero_le _

theorem plain_bool : Plain bool need where
  isUnbroken_write b := by
    intro k hk
    rw [List.mem_singleton.mp hk]
    trivial
  read?_write _ _ _ := rfl
  normal_of_read? _ := trivial
  depth_le_of_read? _ := Nat.zero_le _

theorem natBelow?_ofInt {n bound : Nat} (hn : n < bound) (hbound : bound ≤ UInt64.size) :
    natBelow? bound (.number (.ofInt n)) = some n := by
  have hrange : IntegerRange (n : Int) := by
    simp only [IntegerRange, UInt64.size] at *
    omega
  have htest : (decide ((0 : Int) ≤ n) && decide ((n : Int) < bound)) = true := by
    simp only [Bool.and_eq_true, decide_eq_true_eq]
    omega
  simp only [natBelow?, number?, Number.ofLiteral?_ofInt hrange, Number.toInt?,
    Option.bind_eq_bind, Option.bind_some, htest, if_true, Int.toNat_natCast]

theorem lt_of_natBelow? {n bound : Nat} {t : Term} (h : natBelow? bound t = some n) :
    n < bound := by
  obtain ⟨m, _, h⟩ := Option.bind_eq_some_iff.mp h
  obtain ⟨i, _, h⟩ := Option.bind_eq_some_iff.mp h
  split at h
  · rename_i htest
    simp only [Bool.and_eq_true, decide_eq_true_eq] at htest
    cases h
    omega
  · cases h

theorem plain_uint64 : Plain uint64 need where
  isUnbroken_write _ := isUnbroken_number _
  read?_write {_ n} _ _ _ := by
    have hread := natBelow?_ofInt n.toNat_lt (Nat.le_refl _)
    simp only [uint64, hread, Option.map_some, UInt64.ofNat_toNat]
  normal_of_read? _ := trivial
  depth_le_of_read? _ := Nat.zero_le _

theorem plain_uint32 : Plain uint32 need where
  isUnbroken_write _ := isUnbroken_number _
  read?_write {_ n} _ _ _ := by
    have hread := natBelow?_ofInt n.toNat_lt (by decide)
    simp only [uint32, hread, Option.map_some, UInt32.ofNat_toNat]
  normal_of_read? _ := trivial
  depth_le_of_read? _ := Nat.zero_le _

theorem faithful_count : count.Faithful (fun _ => []) (· < UInt64.size) need where
  isUnbroken_write _ := isUnbroken_number _
  read?_write hn _ _ := natBelow?_ofInt hn (Nat.le_refl _)
  normal_of_read? := lt_of_natBelow?
  depth_le_of_read? _ := Nat.zero_le _

theorem isFinite_toFloat (n : Number) : n.toFloat.isFinite = true := by
  cases n with
  | integer i hi =>
      have hsize : i.natAbs < 2 ^ 65 := by
        simp only [IntegerRange] at hi
        omega
      exact Decimal.isFinite_ofInt hsize
  | real x hx => exact hx

theorem ofFloat_eq_real {x : Float} (h : x.isFinite = true) :
    Value.ofFloat x = .number (.real x h) := by
  simp [Value.ofFloat, Number.ofFloat?, h]

theorem depth_toTerm_ofFloat (x : Float) : (Value.ofFloat x).toTerm.depth = 0 := by
  unfold Value.ofFloat
  cases Number.ofFloat? x with
  | none => rfl
  | some n => rfl

theorem write_float_ne_null (x : Float) (h : x.isFinite = true) : float.write x ≠ .null := by
  simp only [float, ofFloat_eq_real h, Value.toTerm]
  exact Term.noConfusion

theorem faithful_float : float.Faithful (fun x => [x]) (fun x => x.isFinite = true) need where
  isUnbroken_write _ := Value.isUnbroken_toTerm _
  read?_write {_ x} hfinite _ hback := by
    have hx : Number.ofLiteral? (.ofFloat x) = some (.real x hfinite) :=
      hback x List.mem_cons_self hfinite
    simp only [float, ofFloat_eq_real hfinite, Value.toTerm, Number.literal, number?, hx,
      Option.map_some, Number.toFloat]
  normal_of_read? hread := by
    obtain ⟨n, _, rfl⟩ := Option.map_eq_some_iff.mp hread
    exact isFinite_toFloat n
  depth_le_of_read? {room _ x} _ := by
    have hdepth : (float.write x).depth = 0 := depth_toTerm_ofFloat x
    omega

theorem faithful_value : value.Faithful Value.doubles Value.IsOrdered need where
  isUnbroken_write := Value.isUnbroken_toTerm
  read?_write := Value.ofTerm?_toTerm
  normal_of_read? hread := (Value.lands_of_ofTerm? hread).ordered
  depth_le_of_read? hread :=
    Nat.le_trans (Value.lands_of_ofTerm? hread).depth_le (Nat.le_max_right need _)

theorem faithful_instant : instant.Faithful (fun _ => []) Time.Instant.IsLegible need where
  isUnbroken_write _ := Term.isUnbroken_text _
  read?_write {_ i} hlegible _ _ := by
    have hread := Time.Instant.ofLenientStamp?_stamp hlegible
    simp only [instant, text, Term.text, Symbol.text?_ofText, Option.bind_some, hread]
  normal_of_read? hread := by
    obtain ⟨s, _, hs⟩ := Option.bind_eq_some_iff.mp hread
    exact Time.Instant.isLegible_of_ofLenientStamp? hs
  depth_le_of_read? _ := Nat.zero_le _

theorem plain_uuid : Plain uuid need where
  isUnbroken_write _ := Term.isUnbroken_text _
  read?_write _ _ _ := by
    simp only [uuid, text, Term.text, Symbol.text?_ofText, Option.bind_some, Uuid.parse?_text]
  normal_of_read? _ := trivial
  depth_le_of_read? _ := Nat.zero_le _

theorem plain_word {all : List α} {name : α → String}
    (h : ∀ a, all.find? (fun b => name b == name a) = some a) : Plain (word all name) need where
  isUnbroken_write _ := Term.isUnbroken_text _
  read?_write {room a} _ _ _ := by
    have hfind : ((Symbol.text? (Symbol.ofText (name a))).bind
        (fun w => all.find? (fun b => name b == w))) = some a := by
      rw [Symbol.text?_ofText, Option.bind_some, h]
    cases room with
    | zero => exact hfind
    | succ room => exact hfind
  normal_of_read? _ := trivial
  depth_le_of_read? _ := Nat.zero_le _

/-! # Containers -/

theorem read?_option {room : Nat} {t : Term} (h : t ≠ .null) :
    c.option.read? room t = (c.read? room t).map some := by
  simp only [option]

theorem read?_of_read?_option {room : Nat} {t : Term} {a : α}
    (h : c.option.read? room t = some (some a)) : c.read? room t = some a := by
  by_cases hnull : t = .null
  · rw [hnull] at h
    cases h
  · rw [read?_option hnull] at h
    simpa using h

theorem Faithful.option (h : c.Faithful doubles normal need)
    (hnull : ∀ a, normal a → c.write a ≠ .null) :
    c.option.Faithful (fun o => o.toList.flatMap doubles) (fun o => ∀ a ∈ o, normal a) need where
  isUnbroken_write o := by
    cases o with
    | none => exact Value.isUnbroken_toTerm .null
    | some a => exact h.isUnbroken_write a
  read?_write {room o} hnormal hdepth hback := by
    cases o with
    | none => rfl
    | some a =>
        have ha : normal a := hnormal a rfl
        have hread : c.read? room (c.write a) = some a :=
          h.read?_write ha hdepth (by simpa using hback)
        have hterm : c.option.read? room (c.write a) = some (some a) := by
          rw [read?_option (hnull a ha), hread, Option.map_some]
        exact hterm
  normal_of_read? {room t o} hread := by
    rintro a rfl
    exact h.normal_of_read? (read?_of_read?_option hread)
  depth_le_of_read? {room t o} hread := by
    cases o with
    | none => exact Nat.zero_le _
    | some a => exact h.depth_le_of_read? (read?_of_read?_option hread)

theorem exists_of_read?_list {room : Nat} {t : Term} {as : List α}
    (h : c.list.read? room t = some as) :
    ∃ inner items, room = inner + 1 ∧ t = .array items ∧
      items.mapM (c.read? inner) = some as := by
  cases room with
  | zero => cases h
  | succ inner =>
      cases t with
      | array items => exact ⟨inner, items, rfl, rfl, h⟩
      | _ => cases h

theorem mapM_map_eq_some {β : Type} {f : β → Option α} {g : α → β} {as : List α}
    (h : ∀ a ∈ as, f (g a) = some a) : (as.map g).mapM f = some as := by
  induction as with
  | nil => rfl
  | cons a as ih =>
      obtain ⟨hfirst, hrest⟩ := List.forall_mem_cons.mp h
      rw [List.map_cons, List.mapM_cons, hfirst, ih hrest]
      rfl

theorem exists_of_mem_of_mapM {β : Type} {f : β → Option α} {bs : List β} {as : List α}
    (h : bs.mapM f = some as) {a : α} (ha : a ∈ as) : ∃ b ∈ bs, f b = some a := by
  induction bs generalizing as with
  | nil =>
      cases h
      cases ha
  | cons b bs ih =>
      rw [List.mapM_cons] at h
      obtain ⟨first, hfirst, h⟩ := Option.bind_eq_some_iff.mp h
      obtain ⟨rest, hrest, h⟩ := Option.bind_eq_some_iff.mp h
      cases h
      rcases List.mem_cons.mp ha with rfl | ha
      · exact ⟨b, List.mem_cons_self, hfirst⟩
      · obtain ⟨d, hd, hda⟩ := ih hrest ha
        exact ⟨d, List.mem_cons_of_mem b hd, hda⟩

theorem Faithful.list (h : c.Faithful doubles normal need) :
    c.list.Faithful (fun as => as.flatMap doubles) (fun as => ∀ a ∈ as, normal a) (need + 1) where
  isUnbroken_write as :=
    Term.isUnbroken_array (List.forall_mem_map.mpr (fun a _ => h.isUnbroken_write a))
  read?_write {room as} hnormal hdepth hback := by
    obtain ⟨room, rfl⟩ := Nat.exists_eq_add_of_le' (Nat.le_trans (Nat.succ_pos _) hdepth)
    have hitems := Term.itemsDepth_le_iff.mp (Nat.le_of_succ_le_succ hdepth)
    have hall : ∀ a ∈ as, c.read? room (c.write a) = some a := by
      intro a ha
      refine h.read?_write (hnormal a ha) (hitems _ (List.mem_map_of_mem ha)) ?_
      exact fun x hx => hback x (List.mem_flatMap.mpr ⟨a, ha, hx⟩)
    have hread : (as.map c.write).mapM (c.read? room) = some as := mapM_map_eq_some hall
    exact hread
  normal_of_read? {room t as} hread := by
    obtain ⟨inner, items, rfl, rfl, hitems⟩ := exists_of_read?_list hread
    intro a ha
    obtain ⟨u, _, hu⟩ := exists_of_mem_of_mapM hitems ha
    exact h.normal_of_read? hu
  depth_le_of_read? {room t as} hread := by
    obtain ⟨inner, items, rfl, rfl, hitems⟩ := exists_of_read?_list hread
    have hdepth : Term.itemsDepth (as.map c.write) ≤ max need inner := by
      refine Term.itemsDepth_le_iff.mpr (List.forall_mem_map.mpr ?_)
      intro a ha
      obtain ⟨u, _, hu⟩ := exists_of_mem_of_mapM hitems ha
      exact h.depth_le_of_read? hu
    have hwrite : (c.list.write as).depth = Term.itemsDepth (as.map c.write) + 1 := rfl
    omega

def takeMember? (c : Codec α) (room : Nat) (before : List (String × α))
    (m : List Symbol × Term) : Option (List (String × α)) := do
  let name ← Symbol.text? m.1
  let a ← c.read? room m.2
  return insertMember name a before

theorem exists_of_read?_members {room : Nat} {t : Term} {ms : List (String × α)}
    (h : c.members.read? room t = some ms) :
    ∃ inner terms, room = inner + 1 ∧ t = .object terms ∧
      terms.foldlM (c.takeMember? inner) [] = some ms := by
  cases room with
  | zero => cases h
  | succ inner =>
      cases t with
      | object terms => exact ⟨inner, terms, rfl, rfl, h⟩
      | _ => cases h

theorem foldlM_takeMember? {room : Nat} (before : List (String × α)) {ms : List (String × α)}
    (hnames : Ascending (before ++ ms)) (h : ∀ m ∈ ms, c.read? room (c.write m.2) = some m.2) :
    (ms.map (fun m => (Symbol.ofText m.1, c.write m.2))).foldlM (c.takeMember? room) before =
      some (before ++ ms) := by
  induction ms generalizing before with
  | nil =>
      rw [List.append_nil]
      rfl
  | cons m ms ih =>
      obtain ⟨hfirst, hrest⟩ := List.forall_mem_cons.mp h
      have hlast := insertMember_of_ascending hnames
      have htake : c.takeMember? room before (Symbol.ofText m.1, c.write m.2) =
          some (before ++ [m]) := by
        simp only [takeMember?, Symbol.text?_ofText, hfirst, hlast, Option.bind_eq_bind,
          Option.bind_some, Option.pure_def]
      rw [List.append_cons] at hnames ⊢
      rw [List.map_cons, List.foldlM_cons, htake]
      exact ih _ hnames hrest

theorem of_foldlM_takeMember? {room : Nat} {before ms : List (String × α)}
    {terms : List (List Symbol × Term)} {Good : α → Prop}
    (hgood : ∀ {t a}, c.read? room t = some a → Good a)
    (hnames : Ascending before) (hbefore : ∀ m ∈ before, Good m.2)
    (h : terms.foldlM (c.takeMember? room) before = some ms) :
    Ascending ms ∧ ∀ m ∈ ms, Good m.2 := by
  induction terms generalizing before with
  | nil =>
      cases h
      exact ⟨hnames, hbefore⟩
  | cons t terms ih =>
      rw [List.foldlM_cons] at h
      obtain ⟨next, hnext, h⟩ := Option.bind_eq_some_iff.mp h
      obtain ⟨name, _, hnext⟩ := Option.bind_eq_some_iff.mp hnext
      obtain ⟨a, ha, hnext⟩ := Option.bind_eq_some_iff.mp hnext
      cases hnext
      exact ih (ascending_insertMember hnames) (forall_mem_insertMember (hgood ha) hbefore) h

theorem Faithful.members (h : c.Faithful doubles normal need) :
    c.members.Faithful (fun ms => ms.flatMap (fun m => doubles m.2))
      (fun ms => Ascending ms ∧ ∀ m ∈ ms, normal m.2) (need + 1) where
  isUnbroken_write ms := by
    refine Term.isUnbroken_object (List.forall_mem_map.mpr (fun m _ => ⟨?_, ?_⟩))
    · exact fun x hx => Symbol.ne_broken_of_mem_ofText hx
    · exact h.isUnbroken_write m.2
  read?_write {room ms} hnormal hdepth hback := by
    obtain ⟨room, rfl⟩ := Nat.exists_eq_add_of_le' (Nat.le_trans (Nat.succ_pos _) hdepth)
    have hterms := Term.membersDepth_le_iff.mp (Nat.le_of_succ_le_succ hdepth)
    have hall : ∀ m ∈ ms, c.read? room (c.write m.2) = some m.2 := by
      intro m hm
      refine h.read?_write (hnormal.2 m hm) (hterms _ (List.mem_map_of_mem hm)) ?_
      exact fun x hx => hback x (List.mem_flatMap.mpr ⟨m, hm, hx⟩)
    have hread := foldlM_takeMember? [] hnormal.1 hall
    rw [List.nil_append] at hread
    exact hread
  normal_of_read? {room t ms} hread := by
    obtain ⟨inner, terms, rfl, rfl, hterms⟩ := exists_of_read?_members hread
    exact of_foldlM_takeMember? h.normal_of_read? List.Pairwise.nil
      (fun m hm => absurd hm List.not_mem_nil) hterms
  depth_le_of_read? {room t ms} hread := by
    obtain ⟨inner, terms, rfl, rfl, hterms⟩ := exists_of_read?_members hread
    have hall := of_foldlM_takeMember? h.depth_le_of_read? List.Pairwise.nil
      (fun m hm => absurd hm List.not_mem_nil) hterms
    have hdepth : Term.membersDepth
        (ms.map (fun m => (Symbol.ofText m.1, c.write m.2))) ≤ max need inner := by
      refine Term.membersDepth_le_iff.mpr (List.forall_mem_map.mpr ?_)
      exact hall.2
    have hwrite : (c.members.write ms).depth =
        Term.membersDepth (ms.map (fun m => (Symbol.ofText m.1, c.write m.2))) + 1 := rfl
    omega

/-! # Whole texts -/

theorem toOption_parse (c : Codec α) (s : List (Option Char)) :
    (c.parse s).toOption = (Term.ofGlyphs? s).bind (c.read? maxDepth) := by
  unfold parse
  cases Term.ofGlyphs? s with
  | none => rfl
  | some t =>
      rw [Option.bind_some]
      cases hread : c.read? maxDepth t with
      | none =>
          simp only [hread]
          split <;> rfl
      | some a => simp only [hread, Except.toOption]

theorem parse_eq_ok_iff {s : List (Option Char)} {a : α} :
    c.parse s = .ok a ↔ ∃ t, Term.ofGlyphs? s = some t ∧ c.read? maxDepth t = some a := by
  rw [← Option.bind_eq_some_iff, ← toOption_parse]
  cases c.parse s with
  | error e => simp [Except.toOption]
  | ok b => simp [Except.toOption]

theorem Faithful.parse_chars (h : c.Faithful doubles normal need) {a : α} (hnormal : normal a)
    (hdepth : (c.write a).depth ≤ maxDepth) (hback : ∀ x ∈ doubles a, ReadsBack x) :
    c.parse ((c.write a).chars.map some) = .ok a :=
  parse_eq_ok_iff.mpr
    ⟨c.write a, Term.ofGlyphs?_chars (h.isUnbroken_write a), h.read?_write hnormal hdepth hback⟩

/-- What was read is read again from the text it is written as. -/
theorem Faithful.parseText_render (h : c.Faithful doubles normal need) (hneed : need ≤ maxDepth)
    {s : List (Option Char)} {a : α} (hparse : c.parse s = .ok a)
    (hback : ∀ x ∈ doubles a, ReadsBack x) : c.parseText (c.render a) = .ok a := by
  obtain ⟨t, _, hread⟩ := parse_eq_ok_iff.mp hparse
  have hdepth := h.depth_le_of_read? hread
  rw [Nat.max_eq_right hneed] at hdepth
  rw [parseText, render, Term.render, String.toList_ofList]
  exact h.parse_chars (h.normal_of_read? hread) hdepth hback

end Codec
end Json
end FleetBridge
