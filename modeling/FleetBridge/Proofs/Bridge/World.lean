import FleetBridge.Proofs.Bridge.Dispatch
import FleetBridge.Proofs.Bridge.Effect

/-!
# A bridge among its callers

While payloads are on their way the bridge goes on.  A world is a bridge with the
dispatches that are under way on it and those that have returned; a run is any sequence
of deeds, each at a moment of its own.
-/

namespace FleetBridge
namespace Bridge

open Message Record

/-- A dispatch whose payload has been handed over. -/
structure Flight where
  ticket : Ticket
  direct : Bool
  /-- The command that was pending under its order id then. -/
  entry : Option Pending.Command
  /-- Whether a state reported its command done while its record was new. -/
  overtaken : Bool

namespace Flight

def orderId (f : Flight) : String :=
  f.ticket.orderId

def after (lost : Bool) (f : Flight) : Flight :=
  { f with overtaken := f.overtaken || lost }

theorem after_false (f : Flight) : f.after false = f := by
  simp [after]

end Flight

structure World where
  bridge : Bridge
  flights : List Flight
  /-- The dispatches that were told that their payload is on its way. -/
  returned : List Flight

namespace World

inductive Deed where
  | start (device : String) (via : Option Transport.Kind) (command : Command)
  | finish (orderId : String) (sent : Except Transport.Failure Unit)
  | abandon (orderId : String)
  | state (s : State)
  | connection (c : Connection)
  | factsheet (f : Factsheet)
  | expire (ttl : Nat)
  | failAll (reason : String)
  | failDevice (device reason : String)
  | update (orderId : String) (status : Status) (message : Option String)
  | cancel (orderId : String)
  | recover
  /-- Anything that leaves records and pending commands alone. -/
  | elsewhere (f : Bridge → Bridge)

def calm (b : Bridge) : World :=
  { bridge := b, flights := [], returned := [] }

def flight? (orderId : String) (w : World) : Option Flight :=
  w.flights.find? (fun f => f.orderId == orderId)

def land (orderId : String) (w : World) : World :=
  { w with flights := w.flights.filter (fun f => f.orderId != orderId) }

def step (now : Time.Moment) (deed : Deed) (w : World) : World :=
  match deed with
  | .start device via command =>
      match w.bridge.start now device via command with
      | (.error _, bridge) => { w with bridge }
      | (.ok ticket, bridge) =>
          let flight : Flight :=
            { ticket
              direct := command.isDirect
              entry := bridge.pending.find? ticket.orderId
              overtaken := false }
          { w with bridge, flights := flight :: w.flights }
  | .finish orderId sent =>
      match w.flight? orderId with
      | none => w
      | some f =>
          match w.bridge.finish now f.ticket sent with
          | (.error _, bridge) => { w.land orderId with bridge }
          | (.ok _, bridge) => { w.land orderId with bridge, returned := f :: w.returned }
  | .abandon orderId =>
      match w.flight? orderId with
      | none => w
      | some f => { w.land orderId with bridge := w.bridge.abandon f.ticket }
  | .state s =>
      { bridge := (w.bridge.handleState now s).2
        flights := w.flights.map (fun f => f.after (w.bridge.overtakes s f.orderId))
        returned := w.returned }
  | .connection c => { w with bridge := (w.bridge.handleConnection now c).2 }
  | .factsheet f => { w with bridge := w.bridge.handleFactsheet now f }
  | .expire ttl => { w with bridge := (w.bridge.expire now ttl).2 }
  | .failAll reason => { w with bridge := (w.bridge.failAll now reason).2 }
  | .failDevice device reason => { w with bridge := (w.bridge.failDevice now device reason).2 }
  | .update orderId status message =>
      { w with bridge := (w.bridge.updateOrder now orderId status message).2 }
  | .cancel orderId => { w with bridge := (w.bridge.cancelOrder now orderId).2 }
  | .recover =>
      match w.bridge.store.recover now.instant with
      | .ok (_, store) => { w with bridge := { w.bridge with store } }
      | .error _ => w
  | .elsewhere f =>
      { w with
        bridge := { f w.bridge with store := w.bridge.store, pending := w.bridge.pending } }

abbrev Entry := Time.Moment × Deed

def run (deeds : List Entry) (w : World) : World :=
  deeds.foldl (fun w e => w.step e.1 e.2) w

end World

/-!
# The order of a flight
-/

/-- The record of a flight is there, and its command is pending still unless the record
is over or the dispatch was overtaken. -/
structure Flight.Carried (b : Bridge) (f : Flight) (row : Row) (r : Record) : Prop where
  found : b.store.row? f.orderId = some row
  read : row.record = .ok r
  flag : r.status = .created → row.inFlight = true
  entry : f.direct = true →
    ∃ c, f.entry = some c ∧ c.key = f.orderId ∧ c.device = f.ticket.device
  waiting : f.overtaken = false →
    b.pending.find? f.orderId = f.entry ∨ r.status.isFinal = true
  lost : f.overtaken = true → b.pending.find? f.orderId = none

section

variable {b b' : Bridge} {f : Flight} {row : Row} {r : Record}

theorem Flight.Carried.congr (h : f.Carried b row r)
    (hrow : b'.store.row? f.orderId = b.store.row? f.orderId)
    (hpending : b'.pending.find? f.orderId = b.pending.find? f.orderId) :
    f.Carried b' row r where
  found := hrow.trans h.found
  read := h.read
  flag := h.flag
  entry := h.entry
  waiting hnot := by
    rw [hpending]
    exact h.waiting hnot
  lost hlost := hpending.trans (h.lost hlost)

/-- A flight is carried through all that is done between its two steps and later. -/
theorem Flight.Carried.settles {now : Time.Moment} (hnow : now.IsDatable) {lost : Bool}
    (h : f.Carried b row r) (hs : Settles now b b' f.orderId lost) :
    ∃ row' r', (f.after lost).Carried b' row' r' ∧
      (r.status ≠ .created → r'.status ≠ .created) := by
  have hinstant := Time.Moment.isDatable_instant hnow
  have hsound : row.Sound := ⟨r, h.read, h.flag⟩
  rcases hs.row h.found hsound with ⟨row', hrow', hchange, hcommand⟩
  rcases hsound.change hinstant hchange with ⟨r', hr', hflag'⟩
  have hmoved := hchange.eq_or_moved hinstant h.read hr'
  have hfinal : r.status.isFinal = true → r'.status.isFinal = true := by
    intro hfinal
    rcases hmoved with rfl | ⟨status, _, ha, _⟩
    · exact hfinal
    · rw [Status.not_admits_of_isFinal hfinal] at ha
      cases ha
  refine ⟨row', r', ⟨hrow', hr', hflag', h.entry, ?_, ?_⟩, ?_⟩
  · intro hnot
    rcases Bool.or_eq_false_iff.mp hnot with ⟨hovertaken, hlost⟩
    rcases hcommand with hsame | hover | htrue
    · rcases h.waiting hovertaken with hwaiting | hover
      · exact Or.inl (hsame.trans hwaiting)
      · exact Or.inr (hfinal hover)
    · rcases hover with ⟨r'', hr'', hover⟩
      rw [hr'] at hr''
      cases hr''
      exact Or.inr hover
    · rw [hlost] at htrue
      cases htrue
  · intro hlost
    rcases Bool.or_eq_true_iff.mp hlost with hovertaken | htrue
    · exact hs.absent (h.lost hovertaken)
    · exact hs.lost htrue
  · intro hcreated
    rcases hmoved with rfl | ⟨status, message, ha, rfl⟩
    · exact hcreated
    · exact Status.ne_created_of_admits ha

theorem Flight.Carried.sent {d : Dispatched} (h : f.Carried b row r)
    (hends : Ends b f.orderId r (.ok d) b') :
    ∃ row' r', f.Carried b' row' r' ∧ r'.status ≠ .created := by
  cases hends with
  | @sent _ _ row' r' hrow _ hr hcreated _ hkept hpending =>
      refine ⟨row', r', ⟨hrow, hr, fun h => absurd h hcreated, h.entry, ?_, ?_⟩, hcreated⟩
      · intro hnot
        rw [hpending]
        rcases h.waiting hnot with hwaiting | hfinal
        · exact Or.inl hwaiting
        · right
          rw [hkept]
          · exact hfinal
          · intro hcreated
            rw [hcreated] at hfinal
            cases hfinal
      · intro hlost
        rw [hpending]
        exact h.lost hlost

end

namespace World

/-- Every dispatch that is under way or has returned is carried; the records of those
that have returned are new no more. -/
structure Sound (w : World) : Prop where
  flight : ∀ {f}, f ∈ w.flights → ∃ row r, f.Carried w.bridge row r
  returned : ∀ {f}, f ∈ w.returned →
    ∃ row r, f.Carried w.bridge row r ∧ r.status ≠ .created
  apart : ∀ {f g}, f ∈ w.flights → g ∈ w.returned → f.orderId ≠ g.orderId

theorem sound_calm (b : Bridge) : (calm b).Sound where
  flight := nofun
  returned := nofun
  apart := nofun

theorem mem_land_iff {w : World} {orderId : String} {f : Flight} :
    f ∈ (w.land orderId).flights ↔ f ∈ w.flights ∧ f.orderId ≠ orderId := by
  simp [land]

theorem flight?_eq_some {w : World} {orderId : String} {f : Flight}
    (h : w.flight? orderId = some f) : f ∈ w.flights ∧ f.orderId = orderId := by
  have hid := List.find?_some h
  exact ⟨List.mem_of_find?_eq_some h, by simpa using hid⟩

section

variable {w : World} {now : Time.Moment}

theorem Sound.of_settles (hw : w.Sound) (hnow : now.IsDatable) {b : Bridge}
    (h : ∀ orderId, Settles now w.bridge b orderId false) :
    { w with bridge := b }.Sound where
  flight {f} hf := by
    rcases hw.flight hf with ⟨row, r, hcarried⟩
    rcases hcarried.settles hnow (h f.orderId) with ⟨row', r', hcarried', _⟩
    rw [f.after_false] at hcarried'
    exact ⟨row', r', hcarried'⟩
  returned {f} hf := by
    rcases hw.returned hf with ⟨row, r, hcarried, hcreated⟩
    rcases hcarried.settles hnow (h f.orderId) with ⟨row', r', hcarried', hcreated'⟩
    rw [f.after_false] at hcarried'
    exact ⟨row', r', hcarried', hcreated' hcreated⟩
  apart := hw.apart

/-- No command of a dispatch that has returned is lost, since its record is not new. -/
theorem not_overtakes_of_returned (hw : w.Sound) {f : Flight} (hf : f ∈ w.returned)
    (s : State) : w.bridge.overtakes s f.orderId = false := by
  rcases hw.returned hf with ⟨row, r, hcarried, hcreated⟩
  have hget := Store.get_of_row? hcarried.found hcarried.read
  unfold overtakes
  cases w.bridge.pending.find? f.orderId with
  | none => rfl
  | some c => simp [hget, hcreated]

theorem Sound.state (hw : w.Sound) (hnow : now.IsDatable) (s : State) :
    (w.step now (.state s)).Sound where
  flight {f} hf := by
    rcases List.mem_map.mp hf with ⟨old, hold, rfl⟩
    rcases hw.flight hold with ⟨row, r, hcarried⟩
    rcases hcarried.settles hnow (settles_handleState hnow s w.bridge old.orderId) with
      ⟨row', r', hcarried', _⟩
    exact ⟨row', r', hcarried'⟩
  returned {f} hf := by
    rcases hw.returned hf with ⟨row, r, hcarried, hcreated⟩
    have hsettles := settles_handleState hnow s w.bridge f.orderId
    rw [not_overtakes_of_returned hw hf s] at hsettles
    rcases hcarried.settles hnow hsettles with ⟨row', r', hcarried', hcreated'⟩
    rw [f.after_false] at hcarried'
    exact ⟨row', r', hcarried', hcreated' hcreated⟩
  apart {f g} hf hg := by
    rcases List.mem_map.mp hf with ⟨old, hold, rfl⟩
    have hid : old.orderId ≠ g.orderId := hw.apart hold hg
    exact hid

theorem Sound.launch (hw : w.Sound) {b : Bridge} {f : Flight}
    (hfree : w.bridge.store.row? f.orderId = none) (hnew : ∃ row r, f.Carried b row r)
    (hrow : ∀ {orderId}, orderId ≠ f.orderId →
      b.store.row? orderId = w.bridge.store.row? orderId)
    (hpending : ∀ {orderId}, orderId ≠ f.orderId →
      b.pending.find? orderId = w.bridge.pending.find? orderId) :
    { w with bridge := b, flights := f :: w.flights }.Sound := by
  -- An order that is carried has a row, so it is not the one that was free.
  have hne : ∀ {g : Flight} {row r}, g.Carried w.bridge row r → g.orderId ≠ f.orderId := by
    intro g row r hcarried hid
    have hfound := hcarried.found
    rw [hid, hfree] at hfound
    cases hfound
  constructor
  · intro g hg
    rcases List.mem_cons.mp hg with rfl | hold
    · exact hnew
    · rcases hw.flight hold with ⟨row, r, hcarried⟩
      have hother := hne hcarried
      exact ⟨row, r, hcarried.congr (hrow hother) (hpending hother)⟩
  · intro g hg
    rcases hw.returned hg with ⟨row, r, hcarried, hcreated⟩
    have hother := hne hcarried
    exact ⟨row, r, hcarried.congr (hrow hother) (hpending hother), hcreated⟩
  · intro g k hg hk
    rcases List.mem_cons.mp hg with rfl | hold
    · rcases hw.returned hk with ⟨row, r, hcarried, _⟩
      exact (hne hcarried).symm
    · exact hw.apart hold hk

theorem Sound.land (hw : w.Sound) {f : Flight} (hf : f ∈ w.flights) {b : Bridge}
    (hrow : ∀ {orderId}, orderId ≠ f.orderId →
      b.store.row? orderId = w.bridge.store.row? orderId)
    (hpending : ∀ {orderId}, orderId ≠ f.orderId →
      b.pending.find? orderId = w.bridge.pending.find? orderId) :
    { w.land f.orderId with bridge := b }.Sound where
  flight {g} hg := by
    rcases mem_land_iff.mp hg with ⟨hold, hne⟩
    rcases hw.flight hold with ⟨row, r, hcarried⟩
    exact ⟨row, r, hcarried.congr (hrow hne) (hpending hne)⟩
  returned {g} hg := by
    rcases hw.returned hg with ⟨row, r, hcarried, hcreated⟩
    have hne : g.orderId ≠ f.orderId := (hw.apart hf hg).symm
    exact ⟨row, r, hcarried.congr (hrow hne) (hpending hne), hcreated⟩
  apart hg hk := hw.apart (mem_land_iff.mp hg).1 hk

theorem row?_begun {s s' : Store} {d : Draft} {orderId : String} (hid : d.orderId = orderId)
    (h : s.begin now.instant d = .ok s') :
    s.row? orderId = none ∧ s'.row? orderId = some (Row.ofDraft now.instant d) ∧
      ∀ {other}, other ≠ orderId → s'.row? other = s.row? other := by
  subst hid
  refine ⟨Store.row?_eq_none_of_begin h, ?_, ?_⟩
  · rw [Store.row?_of_begin h, if_pos rfl]
  · intro other hne
    rw [Store.row?_of_begin h, if_neg hne]

theorem Sound.start (hw : w.Sound) (hnow : now.IsDatable) (device : String)
    (via : Option Transport.Kind) (command : Command) :
    (w.step now (.start device via command)).Sound := by
  have hinstant := Time.Moment.isDatable_instant hnow
  have hstarts := starts_start now device via command w.bridge
  simp only [step]
  cases hresult : w.bridge.start now device via command with
  | mk answer b =>
  rw [hresult] at hstarts
  cases hstarts with
  | refused hstore hpending =>
      exact hw.of_settles hnow (Settles.of_same hstore hpending)
  | @ordered t _ d hdirect hid hbegin hpending =>
      rcases row?_begun hid hbegin with ⟨hfree, hfound, hrow⟩
      apply hw.launch
      · exact hfree
      · refine ⟨_, _, hfound, Row.record_ofDraft hinstant d, fun _ => rfl, ?_,
          fun _ => Or.inl rfl, nofun⟩
        intro htrue
        rw [hdirect] at htrue
        cases htrue
      · exact hrow
      · intro orderId _
        rw [hpending]
  | @commanded t _ d c hdirect hid hbegin hkey hdevice hpending =>
      rcases row?_begun hid hbegin with ⟨hfree, hfound, hrow⟩
      apply hw.launch
      · exact hfree
      · refine ⟨_, _, hfound, Row.record_ofDraft hinstant d, fun _ => rfl, ?_,
          fun _ => Or.inl rfl, nofun⟩
        intro _
        refine ⟨c, ?_, hkey, hdevice⟩
        rw [hpending, ← hkey]
        exact Pending.find?_insert_self c w.bridge.pending
      · exact hrow
      · intro orderId hne
        rw [hpending]
        apply Pending.find?_insert_of_ne
        rw [hkey]
        exact hne

theorem ends_of_flight (hw : w.Sound) (hnow : now.IsDatable) {f : Flight}
    (hf : f ∈ w.flights) (sent : Except Transport.Failure Unit) :
    ∃ row r, f.Carried w.bridge row r ∧
      Ends w.bridge f.orderId r (w.bridge.finish now f.ticket sent).1
        (w.bridge.finish now f.ticket sent).2 := by
  rcases hw.flight hf with ⟨row, r, hcarried⟩
  exact ⟨row, r, hcarried, ends_finish hnow hcarried.found hcarried.read hcarried.flag sent⟩

theorem Sound.finish (hw : w.Sound) (hnow : now.IsDatable) (orderId : String)
    (sent : Except Transport.Failure Unit) : (w.step now (.finish orderId sent)).Sound := by
  cases hflight : w.flight? orderId with
  | none =>
      simp only [step, hflight]
      exact hw
  | some f =>
  rcases flight?_eq_some hflight with ⟨hf, rfl⟩
  rcases ends_of_flight hw hnow hf sent with ⟨row, r, hcarried, hends⟩
  have hlanded : { w.land f.orderId with
      bridge := (w.bridge.finish now f.ticket sent).2 }.Sound :=
    hw.land hf (fun h => row?_finish_of_ne h sent w.bridge)
      (fun h => find?_finish_of_ne h sent w.bridge)
  cases hresult : w.bridge.finish now f.ticket sent with
  | mk answer b =>
  rw [hresult] at hends hlanded
  cases answer with
  | error e =>
      simp only [step, hflight, hresult]
      exact hlanded
  | ok d =>
      simp only [step, hflight, hresult]
      refine ⟨hlanded.flight, ?_, ?_⟩
      · intro g hg
        rcases List.mem_cons.mp hg with rfl | hold
        · exact hcarried.sent hends
        · exact hlanded.returned hold
      · intro g k hg hk
        rcases List.mem_cons.mp hk with rfl | hold
        · exact (mem_land_iff.mp hg).2
        · exact hlanded.apart hg hold

theorem Sound.abandon (hw : w.Sound) (orderId : String) :
    (w.step now (.abandon orderId)).Sound := by
  cases hflight : w.flight? orderId with
  | none =>
      simp only [step, hflight]
      exact hw
  | some f =>
      simp only [step, hflight]
      rcases flight?_eq_some hflight with ⟨hf, rfl⟩
      exact hw.land hf (fun h => Store.row?_discard_of_ne w.bridge.store h) (fun _ => rfl)

theorem Sound.step (hw : w.Sound) (hnow : now.IsDatable) (deed : Deed) :
    (w.step now deed).Sound := by
  cases deed with
  | start device via command => exact hw.start hnow device via command
  | finish orderId sent => exact hw.finish hnow orderId sent
  | abandon orderId => exact hw.abandon orderId
  | state s => exact hw.state hnow s
  | connection c => exact hw.of_settles hnow (settles_handleConnection hnow c w.bridge)
  | factsheet f => exact hw.of_settles hnow (Settles.of_same rfl rfl)
  | expire ttl => exact hw.of_settles hnow (settles_failCommands hnow _ _ w.bridge)
  | failAll reason => exact hw.of_settles hnow (settles_failCommands hnow _ reason w.bridge)
  | failDevice device reason =>
      exact hw.of_settles hnow (settles_failDevice hnow device reason w.bridge)
  | update orderId status message =>
      exact hw.of_settles hnow (settles_updateOrder now orderId status message w.bridge)
  | cancel orderId => exact hw.of_settles hnow (settles_cancelOrder hnow orderId w.bridge)
  | recover =>
      simp only [World.step]
      cases hrecover : w.bridge.store.recover now.instant with
      | error e => exact hw
      | ok recovered => exact hw.of_settles hnow (settles_recover hrecover)
  | elsewhere f => exact hw.of_settles hnow (Settles.of_same rfl rfl)

theorem Sound.run (hw : w.Sound) {deeds : List Entry} (hdeeds : Time.AllDatable deeds) :
    (w.run deeds).Sound := by
  induction deeds generalizing w with
  | nil => exact hw
  | cons e deeds ih =>
      rcases hdeeds.cons with ⟨he, hrest⟩
      exact ih (hw.step he e.2) hrest

end

end World
end Bridge
end FleetBridge
