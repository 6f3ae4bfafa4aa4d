import FleetBridge.Proofs.Json.Token

/-!
# Reading terms back

The tokens of a term take the machine from a place where a value comes next to
the place behind that value, whatever is open around it.  So a term without
broken bytes is read back from the text it is written as.

`Term.depth` says how deep a term nests.
-/

namespace FleetBridge
namespace Json
namespace Term

theorem itemTokens_eq (items : List Term) : itemTokens items = items.map tokens := by
  induction items with
  | nil => rfl
  | cons t items ih => rw [itemTokens, ih, List.map_cons]

theorem memberTokens_eq (members : List (List Symbol × Term)) :
    memberTokens members =
      members.map (fun m => .string m.1 :: .colon :: tokens m.2) := by
  induction members with
  | nil => rfl
  | cons m members ih => rw [memberTokens, ih, List.map_cons]

/-! # Terms without broken bytes -/

def IsUnbroken (t : Term) : Prop :=
  ∀ k ∈ t.tokens, k.IsUnbroken

theorem mem_separated {k : Token} {tss : List (List Token)} (h : k ∈ separated tss) :
    k = .comma ∨ ∃ ts ∈ tss, k ∈ ts := by
  induction tss with
  | nil => cases h
  | cons ts tss ih =>
      cases tss with
      | nil => exact Or.inr ⟨ts, List.mem_cons_self, h⟩
      | cons us tss =>
          rcases List.mem_append.mp h with hfirst | hrest
          · exact Or.inr ⟨ts, List.mem_cons_self, hfirst⟩
          · rcases List.mem_cons.mp hrest with hcomma | hrest
            · exact Or.inl hcomma
            · rcases ih hrest with hcomma | ⟨vs, hvs, hk⟩
              · exact Or.inl hcomma
              · exact Or.inr ⟨vs, List.mem_cons_of_mem ts hvs, hk⟩

theorem isUnbroken_array {items : List Term} (h : ∀ t ∈ items, t.IsUnbroken) :
    (array items).IsUnbroken := by
  intro k hk
  rcases List.mem_cons.mp hk with rfl | hk
  · trivial
  rcases List.mem_append.mp hk with hk | hk
  · rcases mem_separated hk with rfl | ⟨ts, hts, hk⟩
    · trivial
    · rw [itemTokens_eq] at hts
      obtain ⟨t, ht, rfl⟩ := List.mem_map.mp hts
      exact h t ht k hk
  · rw [List.mem_singleton.mp hk]
    trivial

theorem isUnbroken_object {members : List (List Symbol × Term)}
    (h : ∀ m ∈ members, (∀ x ∈ m.1, x ≠ Symbol.broken) ∧ m.2.IsUnbroken) :
    (object members).IsUnbroken := by
  intro k hk
  rcases List.mem_cons.mp hk with rfl | hk
  · trivial
  rcases List.mem_append.mp hk with hk | hk
  · rcases mem_separated hk with rfl | ⟨ts, hts, hk⟩
    · trivial
    · rw [memberTokens_eq] at hts
      obtain ⟨m, hm, rfl⟩ := List.mem_map.mp hts
      rcases List.mem_cons.mp hk with rfl | hk
      · exact (h m hm).1
      · rcases List.mem_cons.mp hk with rfl | hk
        · trivial
        · exact (h m hm).2 k hk
  · rw [List.mem_singleton.mp hk]
    trivial

theorem isUnbroken_text (s : String) : (text s).IsUnbroken := by
  intro k hk
  rw [List.mem_singleton.mp hk]
  exact fun x hx => Symbol.ne_broken_of_mem_ofText hx

/-! # Numbers stand apart -/

open Token in
theorem apart_separated {tss : List (List Token)} (h : ∀ ts ∈ tss, Apart ts) :
    Apart (separated tss) := by
  induction tss with
  | nil => exact List.isChain_nil
  | cons ts tss ih =>
      have hts := h ts List.mem_cons_self
      have hrest := ih (fun us hus => h us (List.mem_cons_of_mem ts hus))
      cases tss with
      | nil => exact hts
      | cons us tss => exact apart_append_cons rfl hts hrest

open Token in
mutual

theorem apart_tokens (t : Term) : Apart t.tokens := by
  cases t with
  | null => exact List.isChain_singleton _
  | bool b => exact List.isChain_singleton _
  | number l => exact List.isChain_singleton _
  | string s => exact List.isChain_singleton _
  | array items =>
      have hitems := apart_separated (apart_itemTokens items)
      exact apart_cons rfl (apart_append_cons rfl hitems List.isChain_nil)
  | object members =>
      have hmembers := apart_separated (apart_memberTokens members)
      exact apart_cons rfl (apart_append_cons rfl hmembers List.isChain_nil)

theorem apart_itemTokens (items : List Term) : ∀ ts ∈ itemTokens items, Apart ts := by
  cases items with
  | nil =>
      intro ts hts
      cases hts
  | cons t items =>
      intro ts hts
      rcases List.mem_cons.mp hts with rfl | hts
      · exact apart_tokens t
      · exact apart_itemTokens items ts hts

theorem apart_memberTokens (members : List (List Symbol × Term)) :
    ∀ ts ∈ memberTokens members, Apart ts := by
  cases members with
  | nil =>
      intro ts hts
      cases hts
  | cons m members =>
      intro ts hts
      obtain ⟨name, t⟩ := m
      rcases List.mem_cons.mp hts with rfl | hts
      · exact apart_cons rfl (apart_cons rfl (apart_tokens t))
      · exact apart_memberTokens members ts hts

end

/-! # The machine -/

def run? (place : Place) (ts : List Token) : Option Place :=
  ts.foldlM Place.next? place

theorem run?_cons {place next : Place} {k : Token} (ts : List Token)
    (h : place.next? k = some next) : run? place (k :: ts) = run? next ts := by
  simp [run?, h]

/-- At the start of an array a value is taken as its first item. -/
theorem next?_itemOrEnd {frames : List Frame} {k : Token} (h : k ≠ .closeArray) :
    (Place.itemOrEnd frames).next? k = (Place.value (.array [] :: frames)).next? k := by
  cases k with
  | closeArray => exact absurd rfl h
  | _ => rfl

theorem exists_tokens_eq_cons (t : Term) :
    ∃ k ts, t.tokens = k :: ts ∧ k ≠ .closeArray := by
  cases t with
  | null => exact ⟨_, _, rfl, Token.noConfusion⟩
  | bool b => exact ⟨_, _, rfl, Token.noConfusion⟩
  | number l => exact ⟨_, _, rfl, Token.noConfusion⟩
  | string s => exact ⟨_, _, rfl, Token.noConfusion⟩
  | array items => exact ⟨_, _, rfl, Token.noConfusion⟩
  | object members => exact ⟨_, _, rfl, Token.noConfusion⟩

theorem exists_separated_eq_append (ts : List Token) (tss : List (List Token)) :
    ∃ us, separated (ts :: tss) = ts ++ us := by
  cases tss with
  | nil => exact ⟨[], (List.append_nil ts).symm⟩
  | cons us tss => exact ⟨_, rfl⟩

theorem run?_itemOrEnd (t : Term) (items : List Term) (frames : List Frame)
    (rest : List Token) :
    run? (.itemOrEnd frames) (separated (itemTokens (t :: items)) ++ rest) =
      run? (.value (.array [] :: frames)) (separated (itemTokens (t :: items)) ++ rest) := by
  obtain ⟨us, hus⟩ := exists_separated_eq_append t.tokens (itemTokens items)
  obtain ⟨k, ts, hts, hk⟩ := exists_tokens_eq_cons t
  rw [itemTokens, hus, hts]
  simp only [run?, List.cons_append, List.foldlM_cons, next?_itemOrEnd hk]

theorem run?_nameOrEnd (m : List Symbol × Term) (members : List (List Symbol × Term))
    (frames : List Frame) (rest : List Token) :
    run? (.nameOrEnd frames) (separated (memberTokens (m :: members)) ++ rest) =
      run? (.name [] frames) (separated (memberTokens (m :: members)) ++ rest) := by
  obtain ⟨name, t⟩ := m
  obtain ⟨us, hus⟩ :=
    exists_separated_eq_append (.string name :: .colon :: t.tokens) (memberTokens members)
  rw [memberTokens, hus]
  rfl

-- The items and members already taken are kept last first, as the frames hold them.
mutual

theorem run?_tokens (t : Term) (frames : List Frame) (rest : List Token) :
    run? (.value frames) (t.tokens ++ rest) = run? (.done t frames) rest := by
  cases t with
  | null => exact run?_cons rest rfl
  | bool b => exact run?_cons rest rfl
  | number l => exact run?_cons rest rfl
  | string s => exact run?_cons rest rfl
  | array items =>
      rw [tokens, List.cons_append, List.cons_append, List.append_assoc, run?_cons _ rfl]
      cases items with
      | nil => exact run?_cons rest rfl
      | cons t items =>
          rw [run?_itemOrEnd]
          exact run?_items (t :: items) (List.cons_ne_nil t items) [] frames rest
  | object members =>
      rw [tokens, List.cons_append, List.cons_append, List.append_assoc, run?_cons _ rfl]
      cases members with
      | nil => exact run?_cons rest rfl
      | cons m members =>
          rw [run?_nameOrEnd]
          exact run?_members (m :: members) (List.cons_ne_nil m members) [] frames rest

theorem run?_items (items : List Term) (hitems : items ≠ []) (before : List Term)
    (frames : List Frame) (rest : List Token) :
    run? (.value (.array before :: frames))
        (separated (itemTokens items) ++ .closeArray :: rest) =
      run? (.done (.array (before.reverse ++ items)) frames) rest := by
  cases items with
  | nil => exact absurd rfl hitems
  | cons t items =>
      have hfirst := run?_tokens t (.array before :: frames)
      cases items with
      | nil =>
          rw [itemTokens, itemTokens, separated, hfirst, run?_cons rest rfl, List.reverse_cons]
      | cons u items =>
          have htail := run?_items (u :: items) (List.cons_ne_nil u items) (t :: before) frames rest
          rw [itemTokens] at htail
          rw [itemTokens, itemTokens, separated, List.append_assoc, hfirst, List.cons_append,
            run?_cons _ rfl, htail, List.reverse_cons, List.append_assoc, List.singleton_append]
          exact List.cons_ne_nil _ _

theorem run?_members (members : List (List Symbol × Term)) (hmembers : members ≠ [])
    (before : List (List Symbol × Term)) (frames : List Frame) (rest : List Token) :
    run? (.name before frames) (separated (memberTokens members) ++ .closeObject :: rest) =
      run? (.done (.object (before.reverse ++ members)) frames) rest := by
  cases members with
  | nil => exact absurd rfl hmembers
  | cons m members =>
      obtain ⟨name, t⟩ := m
      have hfirst := run?_tokens t (.object before name :: frames)
      cases members with
      | nil =>
          rw [memberTokens, memberTokens, separated, List.cons_append, run?_cons _ rfl,
            List.cons_append, run?_cons _ rfl, hfirst, run?_cons rest rfl, List.reverse_cons]
      | cons m members =>
          have htail := run?_members (m :: members) (List.cons_ne_nil m members)
            ((name, t) :: before) frames rest
          obtain ⟨name', t'⟩ := m
          rw [memberTokens] at htail
          rw [memberTokens, memberTokens, separated, List.append_assoc, List.cons_append,
            run?_cons _ rfl, List.cons_append, run?_cons _ rfl, hfirst, List.cons_append,
            run?_cons _ rfl, htail, List.reverse_cons, List.append_assoc, List.singleton_append]
          exact List.cons_ne_nil _ _

end

theorem ofTokens?_tokens (t : Term) : ofTokens? t.tokens = some t := by
  have hrun := run?_tokens t [] []
  rw [List.append_nil] at hrun
  have hdone : t.tokens.foldlM Place.next? (.value []) = some (.done t []) := hrun
  rw [ofTokens?, hdone]

theorem ofGlyphs?_chars {t : Term} (h : t.IsUnbroken) :
    ofGlyphs? (t.chars.map some) = some t := by
  rw [ofGlyphs?, chars, Token.ofGlyphs?_flatMap_chars (apart_tokens t) h, Option.bind_some,
    ofTokens?_tokens]

/-! # Depth -/

mutual

def depth : Term → Nat
  | null => 0
  | bool _ => 0
  | number _ => 0
  | string _ => 0
  | array items => itemsDepth items + 1
  | object members => membersDepth members + 1

def itemsDepth : List Term → Nat
  | [] => 0
  | t :: rest => max (depth t) (itemsDepth rest)

def membersDepth : List (List Symbol × Term) → Nat
  | [] => 0
  | (_, t) :: rest => max (depth t) (membersDepth rest)

end

theorem itemsDepth_le_iff {items : List Term} {n : Nat} :
    itemsDepth items ≤ n ↔ ∀ t ∈ items, t.depth ≤ n := by
  induction items with
  | nil => simp [itemsDepth]
  | cons t items ih => rw [itemsDepth, Nat.max_le, ih, List.forall_mem_cons]

theorem membersDepth_le_iff {members : List (List Symbol × Term)} {n : Nat} :
    membersDepth members ≤ n ↔ ∀ m ∈ members, m.2.depth ≤ n := by
  induction members with
  | nil => simp [membersDepth]
  | cons m members ih => rw [membersDepth, Nat.max_le, ih, List.forall_mem_cons]

end Term
end Json
end FleetBridge
