import FleetBridge.Proofs.Bus.Log
import Mathlib.Data.List.Nodup

/-!
# A topic and its subscribers

The channel of a topic agrees with the log of the bus: it has a cursor for each subscriber
that is there, and what lies behind the cursor is what is missing in the account of the
subscriber.
-/

namespace FleetBridge
namespace Bus

open Message (Event Topic)

/-- The channel of the topic `t`, which took `posts`, does justice to the log. -/
structure Attended (size : Nat) (t : Topic) (log : List Entry) (c : Channel Event)
    (posts : List Event) : Prop where
  carries : c.Carries posts
  capacity : c.capacity = size
  closed : c.closed = isDropped log
  numbered : ∀ {id}, { topic := t, id } ∈ came log → id < c.subscribers
  there : ∀ {id}, (c.cursors.find? id).isSome = true ↔ { topic := t, id } ∈ present log
  accounts : ∀ {id}, { topic := t, id } ∈ came log →
    Accounts { topic := t, id } log
      ((c.cursors.find? id).map (fun next => posts.drop next))

section

variable {size : Nat} {t : Topic} {log : List Entry} {c : Channel Event} {posts : List Event}

theorem attended_opened (capacity : Nat) (t : Topic) :
    Attended capacity.nextPowerOfTwo t [] (Channel.ofCapacity capacity) [] where
  carries := Channel.carries_ofCapacity capacity
  capacity := rfl
  closed := rfl
  numbered := nofun
  there := by simp [Channel.ofCapacity, Keyed.find?, Keyed.empty, present]
  accounts := nofun

theorem Attended.elsewhere (h : Attended size t log c posts) {x : Entry}
    (hx : x.topic? ≠ some t) :
    Attended size t (log ++ [x]) { c with closed := c.closed || x.isDrop } posts where
  carries := ⟨h.carries.published, h.carries.kept, h.carries.reached⟩
  capacity := h.capacity
  closed := by rw [isDropped_append, h.closed]
  numbered {id} hcame := by
    have hsilent := @Entry.silent_of_topic? x { topic := t, id } hx
    exact h.numbered (mem_came_of_append hsilent.newcomer hcame)
  there {id} := by
    have hsilent := @Entry.silent_of_topic? x { topic := t, id } hx
    rw [present_append, hsilent.attend]
    exact h.there
  accounts {id} hcame := by
    have hsilent := @Entry.silent_of_topic? x { topic := t, id } hx
    have hold := mem_came_of_append hsilent.newcomer hcame
    exact (h.accounts hold).silent hold hsilent.post hsilent.receipt

theorem Attended.subscribe (h : Attended size t log c posts) :
    Attended size t (log ++ [.subscribed { topic := t, id := c.subscribers }])
      c.subscribe.2 posts where
  carries := by
    have hcarries := h.carries.insert c.subscribers (Nat.le_of_eq h.carries.published)
    exact ⟨hcarries.published, hcarries.kept, hcarries.reached⟩
  capacity := h.capacity
  closed := h.closed.trans (isDropped_append_of_not rfl).symm
  numbered {id} hcame := by
    rw [came_append] at hcame
    rcases List.mem_append.mp hcame with hold | hnew
    · exact Nat.lt_succ_of_lt (h.numbered hold)
    · have hid : id = c.subscribers := by simpa [Entry.newcomer?] using hnew
      rw [hid]
      exact Nat.lt_succ_self _
  there {id} := by
    rw [present_append]
    simp only [Channel.subscribe, Entry.attend, List.mem_append, List.mem_singleton,
      Subscriber.mk.injEq, true_and]
    by_cases hid : id = c.subscribers
    · subst hid
      simp [Keyed.find?_insert_self]
    · rw [Keyed.find?_insert_of_ne hid, h.there]
      simp [hid]
  accounts {id} hcame := by
    by_cases hid : id = c.subscribers
    · -- The newcomer has its number from the counter, so it was not there before.
      subst hid
      have hnot : { topic := t, id := c.subscribers } ∉ came log :=
        fun hold => Nat.lt_irrefl _ (h.numbered hold)
      simp only [Channel.subscribe, Keyed.find?_insert_self, Option.map_some,
        h.carries.published, List.drop_length]
      exact accounts_newcomer hnot _
    · have hne : (Entry.subscribed { topic := t, id := c.subscribers }).newcomer? ≠
          some { topic := t, id } := by
        simpa [Entry.newcomer?] using fun heq => hid heq.symm
      have hold := mem_came_of_append hne hcame
      simp only [Channel.subscribe, Keyed.find?_insert_of_ne hid]
      exact (h.accounts hold).silent hold rfl rfl

theorem Attended.publish_of_not_audience (h : Attended size t log c posts)
    (haudience : c.audience = 0) (e : Event) :
    Attended size t (log ++ [.published t e]) c posts where
  carries := h.carries
  capacity := h.capacity
  closed := h.closed.trans (isDropped_append_of_not rfl).symm
  numbered {id} hs := by
    rw [came_append_of_none rfl] at hs
    exact h.numbered hs
  there {id} := by
    rw [present_append]
    exact h.there
  accounts {id} hs := by
    rw [came_append_of_none rfl] at hs
    have hnone : c.cursors.find? id = none := by
      rw [Keyed.find?_eq_none_iff, Keyed.keys, List.eq_nil_of_length_eq_zero haudience]
      exact List.not_mem_nil
    rw [hnone]
    exact ((h.accounts hs).published hs e).departed

theorem Attended.publish_of_audience (h : Attended size t log c posts)
    (haudience : c.audience ≠ 0) (e : Event) :
    Attended size t (log ++ [.published t e]) (c.publish e).2 (posts ++ [e]) := by
  have hcarries := h.carries.publish haudience e
  rw [Channel.publish_of_audience haudience] at hcarries ⊢
  constructor
  · exact hcarries
  · exact h.capacity
  · exact h.closed.trans (isDropped_append_of_not rfl).symm
  · intro id hs
    rw [came_append_of_none rfl] at hs
    exact h.numbered hs
  · intro id
    rw [present_append]
    exact h.there
  · intro id hs
    rw [came_append_of_none rfl] at hs
    rw [h.carries.map_drop_append]
    exact (h.accounts hs).published hs e

theorem Attended.publish (h : Attended size t log c posts) (e : Event) :
    ∃ posts', Attended size t (log ++ [.published t e]) (c.publish e).2 posts' := by
  by_cases haudience : c.audience = 0
  · rw [Channel.publish_of_not_audience haudience]
    exact ⟨posts, h.publish_of_not_audience haudience e⟩
  · exact ⟨posts ++ [e], h.publish_of_audience haudience e⟩

theorem Attended.receive (h : Attended size t log c posts) {id : Nat}
    (hs : { topic := t, id } ∈ present log) (hcame : { topic := t, id } ∈ came log) :
    Attended size t (log ++ [.received { topic := t, id } (c.receive id).1]) (c.receive id).2
      posts := by
  rcases Option.isSome_iff_exists.mp (h.there.mpr hs) with ⟨next, hfind⟩
  rcases h.carries.reads_receive hfind with ⟨next', hcursor, hreached, hreads⟩
  rw [hcursor]
  constructor
  · exact h.carries.insert id hreached
  · exact h.capacity
  · exact h.closed.trans (isDropped_append_of_not rfl).symm
  · intro other hother
    rw [came_append_of_none rfl] at hother
    exact h.numbered hother
  · intro other
    rw [present_append]
    by_cases hid : other = id
    · subst hid
      simp only [Keyed.find?_insert_self, Option.isSome_some, true_iff]
      exact hs
    · simp only [Keyed.find?_insert_of_ne hid]
      exact h.there
  · intro other hold
    rw [came_append_of_none rfl] at hold
    by_cases hid : other = id
    · subst hid
      have haccounts := h.accounts hcame
      rw [hfind] at haccounts
      simp only [Keyed.find?_insert_self, Option.map_some] at haccounts ⊢
      exact haccounts.received hcame hreads
    · have hne : { topic := t, id } ≠ ({ topic := t, id := other } : Subscriber) := by
        simpa using fun heq => hid heq.symm
      simp only [Keyed.find?_insert_of_ne hid]
      exact (h.accounts hold).silent hold rfl (if_neg hne)

theorem Attended.leave (h : Attended size t log c posts) (hnodup : (present log).Nodup)
    (id : Nat) :
    Attended size t (log ++ [.left { topic := t, id }]) (c.unsubscribe id) posts where
  carries := h.carries.erase id
  capacity := h.capacity
  closed := h.closed.trans (isDropped_append_of_not rfl).symm
  numbered {other} hold := by
    rw [came_append_of_none rfl] at hold
    exact h.numbered hold
  there {other} := by
    rw [present_append]
    simp only [Channel.unsubscribe, Entry.attend, hnodup.mem_erase_iff]
    by_cases hid : other = id
    · subst hid
      simp [Keyed.find?_erase_self]
    · rw [Keyed.find?_erase_of_ne hid, h.there]
      simp [hid]
  accounts {other} hold := by
    rw [came_append_of_none rfl] at hold
    have hsilent := @Accounts.silent _ _ _ (h.accounts hold) hold (.left { topic := t, id }) rfl rfl
    by_cases hid : other = id
    · subst hid
      simp only [Channel.unsubscribe, Keyed.find?_erase_self, Option.map_none]
      exact hsilent.departed
    · simp only [Channel.unsubscribe, Keyed.find?_erase_of_ne hid]
      exact hsilent

theorem Attended.audience (h : Attended size t log c posts) (hnodup : (present log).Nodup) :
    c.audience = (present log).countP (fun s => s.topic == t) := by
  have hids : (c.cursors.keys.map (fun id => ({ topic := t, id } : Subscriber))).Nodup :=
    c.cursors.nodup.map (fun _ _ heq => (Subscriber.mk.inj heq).2)
  have hperm : (c.cursors.keys.map (fun id => ({ topic := t, id } : Subscriber))).Perm
      ((present log).filter (fun s => s.topic == t)) := by
    apply (List.perm_ext_iff_of_nodup hids (hnodup.filter _)).mpr
    intro s
    rw [List.mem_map, List.mem_filter, beq_iff_eq]
    constructor
    · intro hs
      rcases hs with ⟨id, hid, rfl⟩
      refine ⟨h.there.mp ?_, rfl⟩
      rw [Option.isSome_iff_ne_none]
      exact fun hnone => Keyed.find?_eq_none_iff.mp hnone hid
    · intro hs
      rcases hs with ⟨hmem, rfl⟩
      refine ⟨s.id, ?_, rfl⟩
      have hfind := h.there.mpr hmem
      by_cases hid : s.id ∈ c.cursors.keys
      · exact hid
      · rw [Keyed.find?_eq_none_iff.mpr hid] at hfind
        cases hfind
  rw [List.countP_eq_length_filter, ← hperm.length_eq, List.length_map, Keyed.keys,
    List.length_map]
  rfl

end

end Bus
end FleetBridge
