import FleetBridge.Channel
import FleetBridge.Proofs.Keyed

/-!
# What a channel still has for a subscriber

A channel is seen through the list of all events that it ever took.  What it keeps is the
end of that list, and what is left for a subscriber is the list from its cursor on.  A
receipt takes the next event, or jumps to what is kept and tells how many events lie
between.
-/

namespace FleetBridge

/-- Receipts that tell of the given events, one after the other: each is handed over or
counted among the missed ones. -/
inductive Receipt.Cover {ε : Type} : List (Receipt ε) → List ε → Prop where
  | nil : Cover [] []
  | event {rs : List (Receipt ε)} {es : List ε} (e : ε) (h : Cover rs es) :
      Cover (.event e :: rs) (e :: es)
  | lagged {rs : List (Receipt ε)} {es missed : List ε} (hmissed : missed ≠ [])
      (h : Cover rs es) : Cover (.lagged missed.length :: rs) (missed ++ es)
  | waiting {rs : List (Receipt ε)} {es : List ε} (h : Cover rs es) : Cover (.waiting :: rs) es
  | closed {rs : List (Receipt ε)} {es : List ε} (h : Cover rs es) : Cover (.closed :: rs) es

namespace Receipt

variable {ε : Type}

def event? : Receipt ε → Option ε
  | .event e => some e
  | _ => none

def weight : Receipt ε → Nat
  | .event _ => 1
  | .lagged missed => missed
  | _ => 0

def weights : List (Receipt ε) → Nat
  | [] => 0
  | r :: rs => r.weight + weights rs

theorem Cover.append {rs rs' : List (Receipt ε)} {es es' : List ε} (h : Cover rs es)
    (h' : Cover rs' es') : Cover (rs ++ rs') (es ++ es') := by
  induction h with
  | nil => exact h'
  | event e _ ih => exact Cover.event e ih
  | @lagged rs es missed hmissed _ ih =>
      rw [List.append_assoc]
      exact Cover.lagged hmissed ih
  | waiting _ ih => exact Cover.waiting ih
  | closed _ ih => exact Cover.closed ih

theorem Cover.weights_eq {rs : List (Receipt ε)} {es : List ε} (h : Cover rs es) :
    weights rs = es.length := by
  induction h with
  | nil => rfl
  | event e _ ih =>
      rw [weights, ih, List.length_cons]
      exact Nat.add_comm 1 _
  | lagged _ _ ih =>
      rw [weights, ih, List.length_append]
      rfl
  | waiting _ ih =>
      rw [weights, ih]
      exact Nat.zero_add _
  | closed _ ih =>
      rw [weights, ih]
      exact Nat.zero_add _

theorem Cover.sublist {rs : List (Receipt ε)} {es : List ε} (h : Cover rs es) :
    (rs.filterMap event?).Sublist es := by
  induction h with
  | nil => exact List.Sublist.slnil
  | event e _ ih => exact List.Sublist.cons_cons e ih
  | @lagged _ _ missed _ _ ih => exact ih.trans (List.sublist_append_right missed _)
  | waiting _ ih => exact ih
  | closed _ ih => exact ih

end Receipt

namespace Channel

variable {ε : Type}

/-- A channel that has taken the events `posts` so far. -/
structure Carries (c : Channel ε) (posts : List ε) : Prop where
  published : c.published = posts.length
  kept : c.kept = posts.drop (posts.length - c.capacity)
  reached : ∀ {id next}, c.cursors.find? id = some next → next ≤ posts.length

/-- What a subscriber gets for whom `left` is left, and what is left then. -/
inductive Reads (capacity : Nat) (closed : Bool) : List ε → Receipt ε → List ε → Prop where
  | lagged {left : List ε} (h : capacity < left.length) :
      Reads capacity closed left (.lagged (left.length - capacity))
        (left.drop (left.length - capacity))
  | event {e : ε} {left : List ε} (h : (e :: left).length ≤ capacity) :
      Reads capacity closed (e :: left) (.event e) left
  | idle : Reads capacity closed [] (if closed then .closed else .waiting) []

theorem Reads.cover {capacity : Nat} {closed : Bool} {left left' : List ε} {r : Receipt ε}
    (h : Reads capacity closed left r left') :
    ∃ taken, left = taken ++ left' ∧ Receipt.Cover [r] taken := by
  cases h with
  | lagged h =>
      refine ⟨left.take (left.length - capacity), (List.take_append_drop _ _).symm, ?_⟩
      have hlength : (left.take (left.length - capacity)).length = left.length - capacity := by
        rw [List.length_take, Nat.min_eq_left (Nat.sub_le _ _)]
      have hmissed : left.take (left.length - capacity) ≠ [] := by
        apply List.ne_nil_of_length_pos
        rw [hlength]
        exact Nat.sub_pos_of_lt h
      have hcover := Receipt.Cover.lagged hmissed Receipt.Cover.nil
      rw [hlength, List.append_nil] at hcover
      exact hcover
  | @event e _ _ => exact ⟨[e], rfl, Receipt.Cover.event e Receipt.Cover.nil⟩
  | idle =>
      refine ⟨[], rfl, ?_⟩
      cases closed with
      | true => exact Receipt.Cover.closed Receipt.Cover.nil
      | false => exact Receipt.Cover.waiting Receipt.Cover.nil

section

variable {capacity : Nat} {closed : Bool} {left left' : List ε} {r : Receipt ε}

theorem Reads.eq_event_iff (h : Reads capacity closed left r left') {e : ε} :
    r = .event e ↔ left.length ≤ capacity ∧ left.head? = some e := by
  cases h with
  | lagged h => simp [Nat.not_le_of_lt h]
  | event h => simp only [Receipt.event.injEq, h, true_and, List.head?_cons, Option.some.injEq]
  | idle => cases closed <;> simp

theorem Reads.eq_lagged_iff (h : Reads capacity closed left r left') {missed : Nat} :
    r = .lagged missed ↔ capacity < left.length ∧ missed = left.length - capacity := by
  cases h with
  | lagged h =>
      simp only [Receipt.lagged.injEq, h, true_and]
      exact eq_comm
  | event h => simp only [reduceCtorEq, Nat.not_lt_of_le h, false_and]
  | idle => cases closed <;> simp

theorem Reads.eq_waiting_iff (h : Reads capacity closed left r left') :
    r = .waiting ↔ left = [] ∧ closed = false := by
  cases h with
  | lagged h => simp [List.ne_nil_of_length_pos (Nat.zero_lt_of_lt h)]
  | event h => simp
  | idle => cases closed <;> simp

theorem Reads.eq_closed_iff (h : Reads capacity closed left r left') :
    r = .closed ↔ left = [] ∧ closed = true := by
  cases h with
  | lagged h => simp [List.ne_nil_of_length_pos (Nat.zero_lt_of_lt h)]
  | event h => simp
  | idle => cases closed <;> simp

end

section

variable {c : Channel ε} {posts : List ε}

theorem carries_ofCapacity (capacity : Nat) : (ofCapacity capacity : Channel ε).Carries [] where
  published := rfl
  kept := List.drop_nil.symm
  reached := nofun

theorem Carries.oldest (h : c.Carries posts) : c.oldest = posts.length - c.capacity := by
  rw [Channel.oldest, h.published, h.kept, List.length_drop]
  exact Nat.sub_sub_self (Nat.sub_le _ _)

theorem Carries.getElem?_kept (h : c.Carries posts) {next : Nat} (hnext : c.oldest ≤ next) :
    c.kept[next - c.oldest]? = posts[next]? := by
  rw [h.oldest] at hnext ⊢
  rw [h.kept, List.getElem?_drop, Nat.add_sub_cancel' hnext]

theorem publish_of_not_audience (h : c.audience = 0) (e : ε) : c.publish e = (0, c) := by
  simp [publish, h]

theorem publish_of_audience (h : c.audience ≠ 0) (e : ε) :
    c.publish e =
      (c.audience,
        { c with
          kept := (c.kept ++ [e]).drop ((c.kept ++ [e]).length - c.capacity)
          published := c.published + 1 }) := by
  simp [publish, h]

theorem Carries.publish (h : c.Carries posts) (haudience : c.audience ≠ 0) (e : ε) :
    (c.publish e).2.Carries (posts ++ [e]) := by
  rw [publish_of_audience haudience]
  constructor
  · simp only [h.published, List.length_append, List.length_singleton]
  · -- One event more goes over the edge if the channel was full.
    have hdrop : posts.drop (posts.length - c.capacity) ++ [e] =
        (posts ++ [e]).drop (posts.length - c.capacity) :=
      (List.drop_append_of_le_length (Nat.sub_le _ _)).symm
    simp only [h.kept, hdrop, List.drop_drop, List.length_drop, List.length_append,
      List.length_singleton]
    congr 1
    omega
  · intro id next hnext
    rw [List.length_append]
    exact Nat.le_trans (h.reached hnext) (Nat.le_add_right _ _)

theorem Carries.map_drop_append (h : c.Carries posts) (e : ε) (id : Nat) :
    (c.cursors.find? id).map (fun next => (posts ++ [e]).drop next) =
      ((c.cursors.find? id).map (fun next => posts.drop next)).map (fun left => left ++ [e]) := by
  cases hfind : c.cursors.find? id with
  | none => rfl
  | some next =>
      simp only [Option.map_some]
      rw [List.drop_append_of_le_length (h.reached hfind)]

theorem publish_fst (c : Channel ε) (e : ε) : (c.publish e).1 = c.audience := by
  by_cases h : c.audience = 0
  · rw [publish_of_not_audience h, h]
  · rw [publish_of_audience h]

theorem Carries.insert (h : c.Carries posts) (id : Nat) {next : Nat}
    (hnext : next ≤ posts.length) :
    { c with cursors := c.cursors.insert id next }.Carries posts where
  published := h.published
  kept := h.kept
  reached {other n} hfind := by
    by_cases hid : other = id
    · subst hid
      rw [Keyed.find?_insert_self] at hfind
      cases hfind
      exact hnext
    · rw [Keyed.find?_insert_of_ne hid] at hfind
      exact h.reached hfind

theorem Carries.erase (h : c.Carries posts) (id : Nat) :
    { c with cursors := c.cursors.erase id }.Carries posts where
  published := h.published
  kept := h.kept
  reached {other n} hfind := by
    by_cases hid : other = id
    · subst hid
      rw [Keyed.find?_erase_self] at hfind
      cases hfind
    · rw [Keyed.find?_erase_of_ne hid] at hfind
      exact h.reached hfind

/-- A subscriber that the channel has overtaken jumps to the oldest event kept. -/
theorem Carries.reads_late (h : c.Carries posts) {id next : Nat}
    (hfind : c.cursors.find? id = some next) (hlate : next < c.oldest) :
    (c.receive id).2 = { c with cursors := c.cursors.insert id c.oldest } ∧
      c.oldest ≤ posts.length ∧
      Reads c.capacity c.closed (posts.drop next) (c.receive id).1 (posts.drop c.oldest) := by
  have holdest := h.oldest
  have hreceive : c.receive id = (.lagged (c.oldest - next),
      { c with cursors := c.cursors.insert id c.oldest }) := by
    simp only [receive, hfind, if_pos hlate]
  have hbehind : c.capacity < (posts.drop next).length := by
    rw [List.length_drop]
    omega
  have hmissed : c.oldest - next = (posts.drop next).length - c.capacity := by
    rw [List.length_drop]
    omega
  have hleft : posts.drop c.oldest =
      (posts.drop next).drop ((posts.drop next).length - c.capacity) := by
    rw [← hmissed, List.drop_drop, Nat.add_sub_cancel' (Nat.le_of_lt hlate)]
  rw [hreceive, hleft]
  refine ⟨rfl, by omega, ?_⟩
  rw [hmissed]
  exact Reads.lagged hbehind

theorem Carries.reads_current (h : c.Carries posts) {id next : Nat}
    (hfind : c.cursors.find? id = some next) (hcurrent : ¬ next < c.oldest) :
    ∃ next', (c.receive id).2 = { c with cursors := c.cursors.insert id next' } ∧
      next' ≤ posts.length ∧
      Reads c.capacity c.closed (posts.drop next) (c.receive id).1 (posts.drop next') := by
  have hkept := h.getElem?_kept (Nat.le_of_not_lt hcurrent)
  cases hleft : posts.drop next with
  | nil =>
      have hnone : c.kept[next - c.oldest]? = none := by
        rw [hkept, List.getElem?_eq_none_iff]
        exact List.drop_eq_nil_iff.mp hleft
      have hreceive : c.receive id = (if c.closed then .closed else .waiting, c) := by
        simp only [receive, hfind, if_neg hcurrent, hnone]
      rw [hreceive]
      refine ⟨next, ?_, h.reached hfind, ?_⟩
      · rw [Keyed.insert_eq_self hfind]
      · rw [hleft]
        exact Reads.idle
  | cons e rest =>
      have hsome : c.kept[next - c.oldest]? = some e := by
        rw [hkept, ← List.head?_drop, hleft, List.head?_cons]
      have hreceive : c.receive id =
          (.event e, { c with cursors := c.cursors.insert id (next + 1) }) := by
        simp only [receive, hfind, if_neg hcurrent, hsome]
      have hrest : posts.drop (next + 1) = rest := by
        rw [← List.drop_drop, hleft, List.drop_one, List.tail_cons]
      have holdest := h.oldest
      have hlength := congrArg List.length hleft
      rw [List.length_drop, List.length_cons] at hlength
      rw [hreceive]
      refine ⟨next + 1, rfl, by omega, ?_⟩
      rw [hrest]
      apply Reads.event
      rw [List.length_cons]
      omega

theorem Carries.reads_receive (h : c.Carries posts) {id next : Nat}
    (hfind : c.cursors.find? id = some next) :
    ∃ next', (c.receive id).2 = { c with cursors := c.cursors.insert id next' } ∧
      next' ≤ posts.length ∧
      Reads c.capacity c.closed (posts.drop next) (c.receive id).1 (posts.drop next') := by
  by_cases hlate : next < c.oldest
  · exact ⟨c.oldest, h.reads_late hfind hlate⟩
  · exact h.reads_current hfind hlate

end

end Channel
end FleetBridge
