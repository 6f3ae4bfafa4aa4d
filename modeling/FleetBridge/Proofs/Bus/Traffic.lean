import FleetBridge.Proofs.Bus.Attendance
import Mathlib.Data.List.Infix

/-!
# Traffic on the bus

Subscribers come and go at any time, everybody publishes, and each subscriber asks for its
next event when it likes.  Every step of that keeps the channels in agreement with the log,
so what a subscriber is told next can be read off the log.
-/

namespace FleetBridge
namespace Bus

open Message (Event Topic)

inductive Deed where
  | subscribe (t : Topic)
  | publish (e : Event)
  | publishTo (t : Topic) (e : Event)
  | receive (s : Subscriber)
  | leave (s : Subscriber)
  | drop

structure Traffic where
  bus : Bus
  log : List Entry

namespace Traffic

def opened (b : Bus) : Traffic :=
  { bus := b, log := [] }

def post (t : Topic) (e : Event) (w : Traffic) : Traffic :=
  { bus := (w.bus.publishTo t e).2, log := w.log ++ [.published t e] }

/-- Whoever is gone does nothing, and nobody publishes or subscribes on a bus that is
gone. -/
def step (w : Traffic) : Deed → Traffic
  | .subscribe t =>
      if isDropped w.log then w
      else
        { bus := (w.bus.subscribe t).2
          log := w.log ++ [.subscribed (w.bus.subscribe t).1] }
  | .publish e =>
      if isDropped w.log then w
      else
        { bus := (w.bus.publish e).2, log := w.log ++ [.published e.payload.topic e] }
  | .publishTo t e => if isDropped w.log then w else w.post t e
  | .receive s =>
      if s ∈ present w.log then
        { bus := (w.bus.receive s).2, log := w.log ++ [.received s (w.bus.receive s).1] }
      else w
  | .leave s =>
      if s ∈ present w.log then
        { bus := w.bus.unsubscribe s, log := w.log ++ [.left s] }
      else w
  | .drop =>
      if isDropped w.log then w else { bus := w.bus.close, log := w.log ++ [.dropped] }

def run (deeds : List Deed) (w : Traffic) : Traffic :=
  deeds.foldl step w

end Traffic

inductive Traffic.Steps (w : Traffic) : Traffic → Prop where
  | ignored : Steps w w
  | subscribed (t : Topic) :
      Steps w
        { bus := (w.bus.subscribe t).2
          log := w.log ++ [.subscribed (w.bus.subscribe t).1] }
  | posted (t : Topic) (e : Event) : Steps w (w.post t e)
  | received {s : Subscriber} (hs : s ∈ present w.log) :
      Steps w
        { bus := (w.bus.receive s).2, log := w.log ++ [.received s (w.bus.receive s).1] }
  | left (s : Subscriber) : Steps w { bus := w.bus.unsubscribe s, log := w.log ++ [.left s] }
  | dropped : Steps w { bus := w.bus.close, log := w.log ++ [.dropped] }

theorem Traffic.steps_step (w : Traffic) (deed : Deed) : Steps w (w.step deed) := by
  cases deed with
  | receive s =>
      by_cases hs : s ∈ present w.log
      · simp only [step, if_pos hs]
        exact Steps.received hs
      · simp only [step, if_neg hs]
        exact Steps.ignored
  | leave s =>
      by_cases hs : s ∈ present w.log
      · simp only [step, if_pos hs]
        exact Steps.left s
      · simp only [step, if_neg hs]
        exact Steps.ignored
  | subscribe t =>
      simp only [step]
      cases isDropped w.log with
      | true => exact Steps.ignored
      | false => exact Steps.subscribed t
  | publish e =>
      simp only [step]
      cases isDropped w.log with
      | true => exact Steps.ignored
      | false => exact Steps.posted e.payload.topic e
  | publishTo t e =>
      simp only [step]
      cases isDropped w.log with
      | true => exact Steps.ignored
      | false => exact Steps.posted t e
  | drop =>
      simp only [step]
      cases isDropped w.log with
      | true => exact Steps.ignored
      | false => exact Steps.dropped

/-!
# Every step keeps the account
-/

namespace Traffic

structure Sound (size : Nat) (w : Traffic) : Prop where
  attended : ∀ t, ∃ posts, Attended size t w.log (w.bus.channel t) posts
  nodup : (present w.log).Nodup
  known : ∀ {s}, s ∈ present w.log → s ∈ came w.log

theorem sound_opened (capacity : Nat) :
    (opened (uniform capacity)).Sound capacity.nextPowerOfTwo where
  attended t := by
    refine ⟨[], ?_⟩
    cases t <;> exact attended_opened capacity _
  nodup := List.nodup_nil
  known := nofun

section

variable {size : Nat} {w : Traffic}

theorem Sound.touch (hw : w.Sound size) {t : Topic} {x : Entry} {c : Channel Event}
    (hx : x.topic? = some t) (hattended : ∃ posts, Attended size t (w.log ++ [x]) c posts)
    (hnodup : (x.attend (present w.log)).Nodup)
    (hknown : ∀ s ∈ x.attend (present w.log), s ∈ came (w.log ++ [x])) :
    Sound size { bus := w.bus.setChannel t c, log := w.log ++ [x] } where
  attended u := by
    by_cases hu : u = t
    · subst hu
      simp only [channel_setChannel]
      exact hattended
    · simp only [channel_setChannel_of_ne hu]
      rcases hw.attended u with ⟨posts, hposts⟩
      have hother : x.topic? ≠ some u := by
        rw [hx]
        exact fun heq => hu (Option.some.inj heq).symm
      have helsewhere := hposts.elsewhere hother
      rw [Entry.isDrop_of_topic? hx, Bool.or_false] at helsewhere
      exact ⟨posts, helsewhere⟩
  nodup := by
    rw [present_append]
    exact hnodup
  known {s} hs := by
    rw [present_append] at hs
    exact hknown s hs

theorem Sound.not_mem_came (hw : w.Sound size) (t : Topic) :
    (w.bus.subscribe t).1 ∉ came w.log := by
  rcases hw.attended t with ⟨posts, hposts⟩
  exact fun hold => Nat.lt_irrefl _ (hposts.numbered hold)

theorem Sound.subscribe (hw : w.Sound size) (t : Topic) :
    Sound size
      { bus := (w.bus.subscribe t).2
        log := w.log ++ [.subscribed (w.bus.subscribe t).1] } := by
  rcases hw.attended t with ⟨posts, hposts⟩
  apply hw.touch rfl ⟨posts, hposts.subscribe⟩
  · rw [Entry.attend, List.nodup_append]
    refine ⟨hw.nodup, List.nodup_singleton _, ?_⟩
    intro s hs other hother heq
    rw [heq, List.mem_singleton.mp hother] at hs
    exact hw.not_mem_came t (hw.known hs)
  · intro s hs
    rcases List.mem_append.mp hs with hold | hnew
    · exact mem_came_append (hw.known hold) _
    · rw [came_append]
      exact List.mem_append_right _ (List.mem_singleton.mpr (List.mem_singleton.mp hnew))

theorem Sound.post (hw : w.Sound size) (t : Topic) (e : Event) : (w.post t e).Sound size := by
  rcases hw.attended t with ⟨posts, hposts⟩
  apply hw.touch rfl (hposts.publish e) hw.nodup
  intro s hs
  exact mem_came_append (hw.known hs) _

theorem Sound.receive (hw : w.Sound size) {s : Subscriber} (hs : s ∈ present w.log) :
    Sound size
      { bus := (w.bus.receive s).2
        log := w.log ++ [.received s (w.bus.receive s).1] } := by
  rcases hw.attended s.topic with ⟨posts, hposts⟩
  apply hw.touch rfl ⟨posts, hposts.receive hs (hw.known hs)⟩ hw.nodup
  intro other hother
  exact mem_came_append (hw.known hother) _

theorem Sound.leave (hw : w.Sound size) (s : Subscriber) :
    Sound size { bus := w.bus.unsubscribe s, log := w.log ++ [.left s] } := by
  rcases hw.attended s.topic with ⟨posts, hposts⟩
  apply hw.touch rfl ⟨posts, hposts.leave hw.nodup s.id⟩ (hw.nodup.erase s)
  intro other hother
  exact mem_came_append (hw.known (List.mem_of_mem_erase hother)) _

theorem Sound.drop (hw : w.Sound size) :
    Sound size { bus := w.bus.close, log := w.log ++ [.dropped] } where
  attended t := by
    rcases hw.attended t with ⟨posts, hposts⟩
    have hclose : w.bus.close.channel t = (w.bus.channel t).close := by
      cases t <;> rfl
    have helsewhere := hposts.elsewhere (x := .dropped) nofun
    simp only [Entry.isDrop, Bool.or_true] at helsewhere
    exact ⟨posts, hclose ▸ helsewhere⟩
  nodup := by
    rw [present_append]
    exact hw.nodup
  known {s} hs := by
    rw [present_append] at hs
    exact mem_came_append (hw.known hs) _

theorem Sound.step (hw : w.Sound size) (deed : Deed) : (w.step deed).Sound size := by
  have hsteps := w.steps_step deed
  generalize w.step deed = after at hsteps
  cases hsteps with
  | ignored => exact hw
  | subscribed t => exact hw.subscribe t
  | posted t e => exact hw.post t e
  | received hs => exact hw.receive hs
  | left s => exact hw.leave s
  | dropped => exact hw.drop

theorem Sound.run (hw : w.Sound size) (deeds : List Deed) : (w.run deeds).Sound size := by
  induction deeds generalizing w with
  | nil => exact hw
  | cons deed deeds ih => exact ih (hw.step deed)

theorem Sound.audience (hw : w.Sound size) (t : Topic) (e : Event) :
    (w.bus.publishTo t e).1 = (present w.log).countP (fun s => s.topic == t) := by
  rcases hw.attended t with ⟨posts, hposts⟩
  rw [← hposts.audience hw.nodup]
  exact Channel.publish_fst _ e

theorem Sound.exists_taken (hw : w.Sound size) {s : Subscriber} (hs : s ∈ came w.log) :
    ∃ taken left, postsFor s w.log = taken ++ left ∧
      Receipt.Cover (receiptsOf s w.log) taken := by
  rcases hw.attended s.topic with ⟨posts, hposts⟩
  rcases hposts.accounts hs with ⟨taken, left, hsplit, hcover, _⟩
  exact ⟨taken, left, hsplit, hcover⟩

/-- What a subscriber gets next depends on what is left of the events for it. -/
theorem Sound.exists_reads (hw : w.Sound size) {s : Subscriber} (hs : s ∈ present w.log) :
    ∃ taken left left', postsFor s w.log = taken ++ left ∧
      Receipt.Cover (receiptsOf s w.log) taken ∧
      Channel.Reads size (isDropped w.log) left (w.bus.receive s).1 left' := by
  rcases hw.attended s.topic with ⟨posts, hposts⟩
  rcases hposts.accounts (hw.known hs) with ⟨taken, left, hsplit, hcover, hleft⟩
  rcases Option.isSome_iff_exists.mp (hposts.there.mpr hs) with ⟨next, hfind⟩
  rcases hposts.carries.reads_receive hfind with ⟨next', _, _, hreads⟩
  rw [hposts.capacity, hposts.closed] at hreads
  refine ⟨taken, left, posts.drop next', hsplit, hcover, ?_⟩
  rw [hleft (posts.drop next) (by rw [hfind]; rfl)]
  exact hreads

end

end Traffic

/-!
# What a subscriber can rely on
-/

/-- What a subscriber was told, and what it is told next if it asks.  The bus retains the
last `size` events of each topic. -/
structure Delivers (size : Nat) (w : Traffic) (s : Subscriber) : Prop where
  accounted : ∃ taken left, postsFor s w.log = taken ++ left ∧
    Receipt.Cover (receiptsOf s w.log) taken
  inOrder : ((receiptsOf s w.log).filterMap Receipt.event?).Sublist (postsFor s w.log)
  event : s ∈ present w.log → ∀ e, (w.bus.receive s).1 = .event e ↔
    behind s w.log ≤ size ∧
      (postsFor s w.log)[Receipt.weights (receiptsOf s w.log)]? = some e
  lagged : s ∈ present w.log → ∀ missed, (w.bus.receive s).1 = .lagged missed ↔
    size < behind s w.log ∧ missed = behind s w.log - size
  waiting : s ∈ present w.log → ((w.bus.receive s).1 = .waiting ↔
    Receipt.weights (receiptsOf s w.log) = (postsFor s w.log).length ∧
      isDropped w.log = false)
  closed : s ∈ present w.log → ((w.bus.receive s).1 = .closed ↔
    Receipt.weights (receiptsOf s w.log) = (postsFor s w.log).length ∧
      isDropped w.log = true)

namespace Traffic

section

variable {size : Nat} {w : Traffic}

theorem behind_of_cover {s : Subscriber} {log : List Entry} {taken left : List Event}
    (hsplit : postsFor s log = taken ++ left) (hcover : Receipt.Cover (receiptsOf s log) taken) :
    behind s log = left.length := by
  rw [behind, hsplit, hcover.weights_eq, List.length_append, Nat.add_sub_cancel_left]

theorem weights_eq_iff_of_cover {s : Subscriber} {log : List Entry} {taken left : List Event}
    (hsplit : postsFor s log = taken ++ left) (hcover : Receipt.Cover (receiptsOf s log) taken) :
    Receipt.weights (receiptsOf s log) = (postsFor s log).length ↔ left = [] := by
  rw [hsplit, hcover.weights_eq, List.length_append, ← List.length_eq_zero_iff]
  omega

theorem Sound.delivers (hw : w.Sound size) {s : Subscriber} (hs : s ∈ came w.log) :
    Delivers size w s where
  accounted := hw.exists_taken hs
  inOrder := by
    rcases hw.exists_taken hs with ⟨taken, left, hsplit, hcover⟩
    rw [hsplit]
    exact hcover.sublist.trans (List.sublist_append_left taken left)
  event hthere e := by
    rcases hw.exists_reads hthere with ⟨taken, left, left', hsplit, hcover, hreads⟩
    rw [hreads.eq_event_iff, behind_of_cover hsplit hcover, hcover.weights_eq, hsplit,
      List.getElem?_append_right (Nat.le_refl _), Nat.sub_self, List.head?_eq_getElem?]
  lagged hthere missed := by
    rcases hw.exists_reads hthere with ⟨taken, left, left', hsplit, hcover, hreads⟩
    rw [hreads.eq_lagged_iff, behind_of_cover hsplit hcover]
  waiting hthere := by
    rcases hw.exists_reads hthere with ⟨taken, left, left', hsplit, hcover, hreads⟩
    rw [hreads.eq_waiting_iff, weights_eq_iff_of_cover hsplit hcover]
  closed hthere := by
    rcases hw.exists_reads hthere with ⟨taken, left, left', hsplit, hcover, hreads⟩
    rw [hreads.eq_closed_iff, weights_eq_iff_of_cover hsplit hcover]

/-- A step tells a subscriber nothing but the answer to its own question. -/
theorem mem_receiptsOf_step {s : Subscriber} {deed : Deed} {r : Receipt Event}
    (h : r ∈ receiptsOf s (w.step deed).log) :
    r ∈ receiptsOf s w.log ∨ s ∈ present w.log ∧ r = (w.bus.receive s).1 := by
  have hsteps := w.steps_step deed
  generalize w.step deed = after at h hsteps
  cases hsteps with
  | ignored => exact Or.inl h
  | received hs =>
      rcases mem_receiptsOf_append h with hold | hnew
      · exact Or.inl hold
      · cases hnew
        exact Or.inr ⟨hs, rfl⟩
  | _ => exact Or.inl ((mem_receiptsOf_append h).resolve_right nofun)

/-- Who is never behind by more than the bus retains never misses anything. -/
theorem not_lagged_run (hw : w.Sound size) {s : Subscriber}
    (hstart : ∀ missed, .lagged missed ∉ receiptsOf s w.log) (deeds : List Deed)
    (hpace : ∀ earlier, earlier <+: deeds → behind s (w.run earlier).log ≤ size) :
    ∀ missed, .lagged missed ∉ receiptsOf s (w.run deeds).log := by
  induction deeds generalizing w with
  | nil => exact hstart
  | cons deed deeds ih =>
      apply ih (hw.step deed)
      · intro missed hmem
        rcases mem_receiptsOf_step hmem with hold | ⟨hthere, hanswer⟩
        · exact hstart missed hold
        · have hlagged := ((hw.delivers (hw.known hthere)).lagged hthere missed).mp hanswer.symm
          exact absurd hlagged.1 (Nat.not_lt_of_le (hpace [] List.nil_prefix))
      · intro earlier hearlier
        exact hpace (deed :: earlier) (List.cons_prefix_cons.mpr ⟨rfl, hearlier⟩)

end

/-- Whatever is done with a bus that retains events at all: every subscriber has its own
topic's events in order, and knows what it missed. -/
theorem delivers_run {capacity : Nat} (hcapacity : 0 < capacity) (deeds : List Deed) :
    ∃ bus, Bus.ofCapacity? capacity = some bus ∧
      let size := capacity.nextPowerOfTwo
      let w := (opened bus).run deeds
      (∀ t, (w.bus.subscribe t).1.topic = t ∧ (w.bus.subscribe t).1 ∉ came w.log) ∧
      (∀ s ∈ came w.log, Delivers size w s) ∧
      (∀ s, (∀ earlier, earlier <+: deeds →
          behind s ((opened bus).run earlier).log ≤ size) →
        ∀ missed, .lagged missed ∉ receiptsOf s w.log) ∧
      (∀ t e, (w.bus.publishTo t e).1 = (present w.log).countP (fun s => s.topic == t)) ∧
      ∀ e, (w.bus.publish e).1 =
        (present w.log).countP (fun s => s.topic == e.payload.topic) := by
  refine ⟨uniform capacity, ?_, ?_⟩
  · rw [Bus.ofCapacity?, if_neg]
    simpa using Nat.ne_of_gt hcapacity
  · intro size w
    have hopened := sound_opened capacity
    have hw := hopened.run deeds
    have hstart : ∀ s missed, .lagged missed ∉ receiptsOf s (opened (uniform capacity)).log :=
      fun _ _ => List.not_mem_nil
    exact ⟨fun t => ⟨rfl, hw.not_mem_came t⟩, fun s hs => hw.delivers hs,
      fun s hpace => not_lagged_run hopened (hstart s) deeds hpace,
      fun t e => hw.audience t e, fun e => hw.audience e.payload.topic e⟩

def sighting : Event :=
  { id := { value := 0 }, timestamp := .ofNanos 0, source := "test",
    payload :=
      .connection
        { headerId := 0, timestamp := none, manufacturer := "acme", serialNumber := "agv-01",
          status := .online } }

/-- Five events come before a subscriber asks for the first time. -/
def overrun : List Deed :=
  let slow : Subscriber := { topic := .connection, id := 0 }
  [.subscribe .connection, .subscribe .telemetry] ++ List.replicate 5 (.publish sighting) ++
    [.publishTo .telemetry sighting] ++ List.replicate 3 (.receive slow)

theorem delivers_run_overrun :
    let slow : Subscriber := { topic := .connection, id := 0 }
    let idle : Subscriber := { topic := .telemetry, id := 0 }
    ∃ bus, Bus.ofCapacity? 2 = some bus ∧
      let w := (opened bus).run overrun
      (receiptsOf slow w.log).map Receipt.weight = [3, 1, 1] ∧
        Delivers (Nat.nextPowerOfTwo 2) w slow ∧
        (w.bus.receive slow).1 = .waiting ∧
        (∀ missed, .lagged missed ∉ receiptsOf idle w.log) ∧
        (w.bus.publish sighting).1 = 1 := by
  intro slow idle
  rcases @delivers_run 2 (by decide) overrun with
    ⟨bus, hbus, _, hdelivers, hpunctual, _, haudience⟩
  have huniform : bus = uniform 2 := (Option.some.inj hbus).symm
  subst huniform
  refine ⟨_, hbus, by decide +kernel, ?_, ?_, ?_, ?_⟩
  · exact hdelivers slow (by decide +kernel)
  · apply ((hdelivers slow (by decide +kernel)).waiting (by decide +kernel)).mpr
    decide +kernel
  · apply hpunctual
    have hpace : ∀ earlier ∈ overrun.inits,
        behind idle ((opened (uniform 2)).run earlier).log ≤ Nat.nextPowerOfTwo 2 := by
      decide +kernel
    intro earlier hearlier
    exact hpace earlier ((List.mem_inits earlier overrun).mpr hearlier)
  · rw [haudience]
    decide +kernel

end Traffic

end Bus
end FleetBridge
