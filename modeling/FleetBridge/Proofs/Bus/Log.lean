import FleetBridge.Bus
import FleetBridge.Proofs.Channel

/-!
# The log of a bus

The log of all that is seen of a bus tells who is there, what was published for a
subscriber since it came, and what it was told.  The account of a subscriber sets the last
two against each other.
-/

namespace FleetBridge
namespace Bus

open Message (Event Topic)

/-- What is seen from outside the bus. -/
inductive Entry where
  | subscribed (s : Subscriber)
  | published (t : Topic) (e : Event)
  | received (s : Subscriber) (r : Receipt Event)
  | left (s : Subscriber)
  | dropped

namespace Entry

def topic? : Entry → Option Topic
  | subscribed s => some s.topic
  | published t _ => some t
  | received s _ => some s.topic
  | left s => some s.topic
  | dropped => none

def newcomer? : Entry → Option Subscriber
  | subscribed s => some s
  | _ => none

def postOn? (t : Topic) : Entry → Option Event
  | published u e => if u = t then some e else none
  | _ => none

def receiptOf? (s : Subscriber) : Entry → Option (Receipt Event)
  | received other r => if other = s then some r else none
  | _ => none

def isDrop : Entry → Bool
  | dropped => true
  | _ => false

def attend (present : List Subscriber) : Entry → List Subscriber
  | subscribed s => present ++ [s]
  | left s => present.erase s
  | _ => present

end Entry

def came (log : List Entry) : List Subscriber :=
  log.filterMap Entry.newcomer?

def present (log : List Entry) : List Subscriber :=
  log.foldl Entry.attend []

def isDropped (log : List Entry) : Bool :=
  log.any Entry.isDrop

def since (s : Subscriber) : List Entry → List Entry
  | [] => []
  | x :: log => if x.newcomer? = some s then log else since s log

def postsFor (s : Subscriber) (log : List Entry) : List Event :=
  (since s log).filterMap (Entry.postOn? s.topic)

def receiptsOf (s : Subscriber) (log : List Entry) : List (Receipt Event) :=
  (since s log).filterMap (Entry.receiptOf? s)

/-- How many events a subscriber does not know of yet. -/
def behind (s : Subscriber) (log : List Entry) : Nat :=
  (postsFor s log).length - Receipt.weights (receiptsOf s log)

/-!
# The log grows by one entry
-/

section

variable {log : List Entry} {x : Entry} {s : Subscriber}

theorem came_append (log : List Entry) (x : Entry) :
    came (log ++ [x]) = came log ++ x.newcomer?.toList := by
  unfold came
  rw [List.filterMap_append]
  cases h : x.newcomer? <;> simp [h]

theorem present_append (log : List Entry) (x : Entry) :
    present (log ++ [x]) = x.attend (present log) := by
  simp only [present, List.foldl_append, List.foldl_cons, List.foldl_nil]

theorem isDropped_append (log : List Entry) (x : Entry) :
    isDropped (log ++ [x]) = (isDropped log || x.isDrop) := by
  simp [isDropped]

theorem isDropped_append_of_not (hx : x.isDrop = false) :
    isDropped (log ++ [x]) = isDropped log := by
  rw [isDropped_append, hx, Bool.or_false]

theorem mem_came_append (hs : s ∈ came log) (x : Entry) : s ∈ came (log ++ [x]) := by
  rw [came_append]
  exact List.mem_append_left _ hs

theorem mem_came_of_append (hx : x.newcomer? ≠ some s) (hs : s ∈ came (log ++ [x])) :
    s ∈ came log := by
  rw [came_append] at hs
  rcases List.mem_append.mp hs with hold | hnew
  · exact hold
  · exact absurd (Option.mem_toList.mp hnew) hx

theorem came_append_of_none (hx : x.newcomer? = none) : came (log ++ [x]) = came log := by
  rw [came_append, hx]
  exact List.append_nil _

theorem since_append (hs : s ∈ came log) (x : Entry) :
    since s (log ++ [x]) = since s log ++ [x] := by
  induction log with
  | nil => cases hs
  | cons y log ih =>
      by_cases hy : y.newcomer? = some s
      · simp only [List.cons_append, since, if_pos hy]
      · simp only [List.cons_append, since, if_neg hy]
        apply ih
        unfold came at hs ⊢
        cases hnew : y.newcomer? with
        | none =>
            rw [List.filterMap_cons_none hnew] at hs
            exact hs
        | some other =>
            rw [List.filterMap_cons_some hnew] at hs
            rcases List.mem_cons.mp hs with rfl | hrest
            · exact absurd hnew hy
            · exact hrest

theorem since_of_not_came (hs : s ∉ came log) (x : Entry) : since s (log ++ [x]) = [] := by
  induction log with
  | nil =>
      simp only [List.nil_append, since]
      split <;> rfl
  | cons y log ih =>
      have hy : y.newcomer? ≠ some s := by
        intro hnew
        apply hs
        unfold came
        rw [List.filterMap_cons_some hnew]
        exact List.mem_cons_self
      simp only [List.cons_append, since, if_neg hy]
      apply ih
      intro hrest
      apply hs
      unfold came at hrest ⊢
      rw [List.filterMap_cons]
      split
      · exact hrest
      · exact List.mem_cons_of_mem _ hrest

theorem postsFor_append (hs : s ∈ came log) (x : Entry) :
    postsFor s (log ++ [x]) = postsFor s log ++ (x.postOn? s.topic).toList := by
  unfold postsFor
  rw [since_append hs, List.filterMap_append]
  cases h : x.postOn? s.topic <;> simp [h]

theorem receiptsOf_append (hs : s ∈ came log) (x : Entry) :
    receiptsOf s (log ++ [x]) = receiptsOf s log ++ (x.receiptOf? s).toList := by
  unfold receiptsOf
  rw [since_append hs, List.filterMap_append]
  cases h : x.receiptOf? s <;> simp [h]

theorem postsFor_of_not_came (hs : s ∉ came log) (x : Entry) : postsFor s (log ++ [x]) = [] := by
  rw [postsFor, since_of_not_came hs]
  rfl

theorem receiptsOf_of_not_came (hs : s ∉ came log) (x : Entry) :
    receiptsOf s (log ++ [x]) = [] := by
  rw [receiptsOf, since_of_not_came hs]
  rfl

theorem mem_receiptsOf_append {r : Receipt Event} (h : r ∈ receiptsOf s (log ++ [x])) :
    r ∈ receiptsOf s log ∨ x = .received s r := by
  by_cases hs : s ∈ came log
  · rw [receiptsOf_append hs] at h
    rcases List.mem_append.mp h with hold | hnew
    · exact Or.inl hold
    · right
      rw [Option.mem_toList] at hnew
      cases x with
      | received other r' =>
          simp only [Entry.receiptOf?, Option.ite_none_right_eq_some, Option.some.injEq] at hnew
          rcases hnew with ⟨rfl, rfl⟩
          rfl
      | _ => cases hnew
  · rw [receiptsOf_of_not_came hs] at h
    cases h

end

/-- An entry about another topic, or about all of them, is no news for a subscriber. -/
structure Entry.Silent (x : Entry) (s : Subscriber) : Prop where
  newcomer : x.newcomer? ≠ some s
  post : x.postOn? s.topic = none
  receipt : x.receiptOf? s = none
  attend : ∀ present : List Subscriber, s ∈ x.attend present ↔ s ∈ present

theorem Entry.silent_of_topic? {x : Entry} {s : Subscriber} (h : x.topic? ≠ some s.topic) :
    x.Silent s := by
  cases x with
  | subscribed other =>
      have hne : other ≠ s := by
        intro heq
        subst heq
        exact h rfl
      refine ⟨fun hnew => hne (Option.some.inj hnew), rfl, rfl, ?_⟩
      intro present
      simp [attend, hne.symm]
  | published t e =>
      have hne : t ≠ s.topic := fun heq => h (congrArg some heq)
      exact ⟨nofun, if_neg hne, rfl, fun _ => Iff.rfl⟩
  | received other r =>
      have hne : other ≠ s := by
        intro heq
        subst heq
        exact h rfl
      exact ⟨nofun, rfl, if_neg hne, fun _ => Iff.rfl⟩
  | left other =>
      have hne : other ≠ s := by
        intro heq
        subst heq
        exact h rfl
      exact ⟨nofun, rfl, rfl, fun _ => List.mem_erase_of_ne hne.symm⟩
  | dropped => exact ⟨nofun, rfl, rfl, fun _ => Iff.rfl⟩

theorem Entry.isDrop_of_topic? {x : Entry} {t : Topic} (h : x.topic? = some t) :
    x.isDrop = false := by
  cases x with
  | dropped => cases h
  | _ => rfl

/-!
# The account of a subscriber
-/

/-- What a subscriber was told covers what was published for it, up to what is left while
it is there. -/
def Accounts (s : Subscriber) (log : List Entry) (left? : Option (List Event)) : Prop :=
  ∃ taken left, postsFor s log = taken ++ left ∧ Receipt.Cover (receiptsOf s log) taken ∧
    ∀ rest, left? = some rest → left = rest

section

variable {s : Subscriber} {log : List Entry} {left? : Option (List Event)}

theorem accounts_newcomer (hs : s ∉ came log) (x : Entry) :
    Accounts s (log ++ [x]) (some []) := by
  refine ⟨[], [], postsFor_of_not_came hs x, ?_, ?_⟩
  · rw [receiptsOf_of_not_came hs]
    exact Receipt.Cover.nil
  · intro rest hrest
    exact Option.some.inj hrest

theorem Accounts.silent (h : Accounts s log left?) (hs : s ∈ came log) {x : Entry}
    (hpost : x.postOn? s.topic = none) (hreceipt : x.receiptOf? s = none) :
    Accounts s (log ++ [x]) left? := by
  rcases h with ⟨taken, left, hposts, hcover, hleft⟩
  refine ⟨taken, left, ?_, ?_, hleft⟩
  · rw [postsFor_append hs, hpost, hposts]
    exact List.append_nil _
  · rw [receiptsOf_append hs, hreceipt]
    exact (List.append_nil _).symm ▸ hcover

theorem Accounts.published (h : Accounts s log left?) (hs : s ∈ came log) (e : Event) :
    Accounts s (log ++ [.published s.topic e]) (left?.map (fun left => left ++ [e])) := by
  rcases h with ⟨taken, left, hposts, hcover, hleft⟩
  refine ⟨taken, left ++ [e], ?_, ?_, ?_⟩
  · rw [postsFor_append hs, hposts, List.append_assoc]
    simp [Entry.postOn?]
  · rw [receiptsOf_append hs]
    exact (List.append_nil _).symm ▸ hcover
  · intro rest hrest
    rcases Option.map_eq_some_iff.mp hrest with ⟨old, hold, rfl⟩
    rw [hleft old hold]

theorem Accounts.received {left left' : List Event} (h : Accounts s log (some left))
    (hs : s ∈ came log) {capacity : Nat} {closed : Bool} {r : Receipt Event}
    (hreads : Channel.Reads capacity closed left r left') :
    Accounts s (log ++ [.received s r]) (some left') := by
  rcases h with ⟨taken, old, hposts, hcover, hleft⟩
  rcases hreads.cover with ⟨more, hmore, hcovers⟩
  refine ⟨taken ++ more, left', ?_, ?_, ?_⟩
  · rw [postsFor_append hs, hposts, hleft left rfl, hmore, List.append_assoc]
    simp [Entry.postOn?]
  · rw [receiptsOf_append hs]
    simp only [Entry.receiptOf?, if_true, Option.toList_some]
    exact hcover.append hcovers
  · intro rest hrest
    exact Option.some.inj hrest

theorem Accounts.departed (h : Accounts s log left?) : Accounts s log none := by
  rcases h with ⟨taken, left, hposts, hcover, _⟩
  exact ⟨taken, left, hposts, hcover, nofun⟩

end

end Bus
end FleetBridge
