import FleetBridge.Proofs.Bridge.Issue
import FleetBridge.Proofs.Bridge.Report
import FleetBridge.Proofs.Bridge.World

/-!
# Runs that begin with nothing

A bridge that began with nothing has only records that it can read, and a record that is
still new belongs to a dispatch under way.  As long as no caller goes away, every pending
command has a record behind it.
-/

namespace FleetBridge
namespace Bridge

open Message Record

/-- Nothing was recorded, registered or published so far, and results will be published. -/
structure IsFresh (b : Bridge) : Prop where
  store : b.store = .empty
  pending : b.pending = .empty
  published : b.published = []
  reporting : b.reportsResults = true

namespace World

def Deed.isDispatch : Deed → Bool
  | .start _ _ _ => true
  | .finish _ _ => true
  | .abandon _ => true
  | _ => false

def Deed.isAbandon : Deed → Bool
  | .abandon _ => true
  | _ => false

/-- Nothing else publishes results, or stops them from being published. -/
def Deed.IsQuiet : Deed → Prop
  | .elsewhere f =>
      ∀ b, (f b).reports = b.reports ∧ (f b).reportsResults = b.reportsResults
  | _ => True

theorem exists_step_finish {w : World} (now : Time.Moment) {f : Flight}
    (hflight : w.flight? f.orderId = some f) (sent : Except Transport.Failure Unit) :
    ∃ returned, w.step now (.finish f.orderId sent) =
      { bridge := (w.bridge.finish now f.ticket sent).2
        flights := (w.land f.orderId).flights
        returned } := by
  simp only [step, hflight]
  cases w.bridge.finish now f.ticket sent with
  | mk answer b =>
      cases answer with
      | error e => exact ⟨w.returned, rfl⟩
      | ok d => exact ⟨f :: w.returned, rfl⟩

/-!
# Deeds apart from dispatches
-/

/-- What a deed that is no part of a dispatch does to a world. -/
structure Tends (now : Time.Moment) (w w' : World) (results : List CommandResult) : Prop where
  resolves : Resolves w.bridge w'.bridge results
  settles : ∀ orderId, ∃ lost, Settles now w.bridge w'.bridge orderId lost
  flights : ∃ lost : String → Bool, w'.flights = w.flights.map (fun f => f.after (lost f.orderId))

section

variable {now : Time.Moment} {w w' : World} {results : List CommandResult}

theorem Tends.of_bridge {b : Bridge} (h : Resolves w.bridge b results)
    (hs : ∀ orderId, Settles now w.bridge b orderId false) :
    Tends now w { w with bridge := b } results where
  resolves := h
  settles orderId := ⟨false, hs orderId⟩
  flights := by
    refine ⟨fun _ => false, ?_⟩
    simp only [Flight.after_false]
    exact (List.map_id _).symm

theorem Tends.mem_flights (h : Tends now w w' results) {f : Flight} (hf : f ∈ w.flights) :
    ∃ f' ∈ w'.flights, f'.orderId = f.orderId := by
  rcases h.flights with ⟨lost, hflights⟩
  rw [hflights]
  exact ⟨_, List.mem_map_of_mem hf, rfl⟩

theorem Tends.of_mem_flights (h : Tends now w w' results) {f' : Flight}
    (hf' : f' ∈ w'.flights) :
    ∃ f ∈ w.flights, f.orderId = f'.orderId ∧ f.direct = f'.direct := by
  rcases h.flights with ⟨lost, hflights⟩
  rw [hflights] at hf'
  rcases List.mem_map.mp hf' with ⟨f, hf, rfl⟩
  exact ⟨f, hf, rfl, rfl⟩

theorem tends_step (hb : w.bridge.reportsResults = true) (hnow : now.IsDatable) {deed : Deed}
    (hdeed : deed.isDispatch = false) (hquiet : deed.IsQuiet) :
    ∃ results, Tends now w (w.step now deed) results := by
  cases deed with
  | start device via command => cases hdeed
  | finish orderId sent => cases hdeed
  | abandon orderId => cases hdeed
  | state s =>
      exact ⟨_, resolves_handleState hb now s,
        fun orderId => ⟨_, settles_handleState hnow s w.bridge orderId⟩,
        fun orderId => w.bridge.overtakes s orderId, rfl⟩
  | connection c =>
      exact ⟨_, Tends.of_bridge (resolves_handleConnection hb now c)
        (settles_handleConnection hnow c w.bridge)⟩
  | factsheet f =>
      exact ⟨_, Tends.of_bridge (Resolves.of_same rfl rfl rfl id) (Settles.of_same rfl rfl)⟩
  | expire ttl =>
      exact ⟨_, Tends.of_bridge (resolves_failCommands hb now _ _)
        (settles_failCommands hnow _ _ w.bridge)⟩
  | failAll reason =>
      exact ⟨_, Tends.of_bridge (resolves_failCommands hb now _ _)
        (settles_failCommands hnow _ reason w.bridge)⟩
  | failDevice device reason =>
      exact ⟨_, Tends.of_bridge (resolves_failDevice hb now device reason)
        (settles_failDevice hnow device reason w.bridge)⟩
  | update orderId status message =>
      exact ⟨_, Tends.of_bridge (resolves_updateOrder now orderId status message w.bridge)
        (settles_updateOrder now orderId status message w.bridge)⟩
  | cancel orderId =>
      rcases resolves_cancelOrder hb now orderId with ⟨results, hresolves⟩
      exact ⟨results, Tends.of_bridge hresolves (settles_cancelOrder hnow orderId w.bridge)⟩
  | recover =>
      simp only [step]
      cases hrecover : w.bridge.store.recover now.instant with
      | error e =>
          exact ⟨_, Tends.of_bridge (Resolves.of_same rfl rfl rfl id) (Settles.of_same rfl rfl)⟩
      | ok recovered =>
          rcases recovered with ⟨records, store⟩
          have hchanges := Store.changes_of_recover hrecover
          exact ⟨_, Tends.of_bridge (Resolves.of_same rfl rfl rfl hchanges.absent)
            (settles_recover hrecover)⟩
  | elsewhere f =>
      rcases hquiet w.bridge with ⟨hreports, hreporting⟩
      exact ⟨_, Tends.of_bridge (Resolves.of_same hreports hreporting rfl id)
        (Settles.of_same rfl rfl)⟩

/-!
# Records and the dispatches under way
-/

/-- Every record can be read, and the new ones are those of dispatches under way. -/
structure Grounded (w : World) : Prop where
  reporting : w.bridge.reportsResults = true
  sound : ∀ {orderId row}, w.bridge.store.row? orderId = some row → row.Sound
  underway : ∀ {orderId row r}, w.bridge.store.row? orderId = some row →
    row.record = .ok r → r.status = .created → ∃ f ∈ w.flights, f.orderId = orderId

theorem grounded_calm {b : Bridge} (hb : b.IsFresh) : (calm b).Grounded where
  reporting := hb.reporting
  sound hrow := by
    rw [calm, hb.store] at hrow
    cases hrow
  underway hrow := by
    rw [calm, hb.store] at hrow
    cases hrow

theorem Grounded.tends (hg : w.Grounded) (hnow : now.IsDatable)
    (h : Tends now w w' results) : w'.Grounded := by
  have hinstant := Time.Moment.isDatable_instant hnow
  -- A row that is there now was there before, and has changed as the lifecycle admits.
  have hback : ∀ {orderId row'}, w'.bridge.store.row? orderId = some row' →
      ∃ row, w.bridge.store.row? orderId = some row ∧ row.Sound ∧
        Row.Change now.instant row row' := by
    intro orderId row' hrow'
    cases hrow : w.bridge.store.row? orderId with
    | none =>
        rw [h.resolves.absent hrow] at hrow'
        cases hrow'
    | some row =>
        rcases h.settles orderId with ⟨lost, hsettles⟩
        rcases hsettles.row hrow (hg.sound hrow) with ⟨after, hafter, hchange, _⟩
        rw [hafter] at hrow'
        cases hrow'
        exact ⟨row, rfl, hg.sound hrow, hchange⟩
  refine ⟨h.resolves.reporting.trans hg.reporting, ?_, ?_⟩
  · intro orderId row' hrow'
    rcases hback hrow' with ⟨row, _, hsound, hchange⟩
    exact hsound.change hinstant hchange
  · intro orderId row' r' hrow' hr' hcreated
    rcases hback hrow' with ⟨row, hrow, ⟨r, hr, _⟩, hchange⟩
    rcases hchange.eq_or_moved hinstant hr hr' with rfl | ⟨status, message, ha, rfl⟩
    · rcases hg.underway hrow hr hcreated with ⟨f, hf, rfl⟩
      exact h.mem_flights hf
    · exact absurd hcreated (Status.ne_created_of_admits ha)

theorem Grounded.land (hg : w.Grounded) {f : Flight} {b : Bridge} {returned : List Flight}
    (hreporting : b.reportsResults = w.bridge.reportsResults)
    (hother : ∀ {orderId}, orderId ≠ f.orderId →
      b.store.row? orderId = w.bridge.store.row? orderId)
    (hrow : ∀ {row}, b.store.row? f.orderId = some row →
      ∃ r, row.record = .ok r ∧ r.status ≠ .created) :
    { bridge := b, flights := (w.land f.orderId).flights, returned : World }.Grounded where
  reporting := hreporting.trans hg.reporting
  sound {orderId row} hfound := by
    by_cases hid : orderId = f.orderId
    · subst hid
      rcases hrow hfound with ⟨r, hr, hcreated⟩
      exact ⟨r, hr, fun h => absurd h hcreated⟩
    · exact hg.sound ((hother hid).symm.trans hfound)
  underway {orderId row r} hfound hr hcreated := by
    by_cases hid : orderId = f.orderId
    · subst hid
      rcases hrow hfound with ⟨r', hr', hne⟩
      rw [hr] at hr'
      cases hr'
      exact absurd hcreated hne
    · rcases hg.underway ((hother hid).symm.trans hfound) hr hcreated with ⟨g, hgf, rfl⟩
      exact ⟨g, mem_land_iff.mpr ⟨hgf, hid⟩, rfl⟩

theorem Grounded.launch (hg : w.Grounded) (hnow : now.IsDatable) {device : String}
    {via : Option Transport.Kind} {command : Command} {envelope : Envelope} {b : Bridge}
    {f : Flight} (h : Issued now device via command w.bridge envelope f.ticket b) :
    { w with bridge := b, flights := f :: w.flights }.Grounded where
  reporting := by
    rw [h.rest]
    exact hg.reporting
  sound {orderId row} hrow := by
    by_cases hid : orderId = f.ticket.orderId
    · subst hid
      rw [h.row?_self] at hrow
      cases hrow
      exact Row.sound_ofDraft (Time.Moment.isDatable_instant hnow) _
    · exact hg.sound ((h.row?_of_ne hid).symm.trans hrow)
  underway {orderId row r} hrow hr hcreated := by
    by_cases hid : orderId = f.ticket.orderId
    · exact ⟨f, List.mem_cons_self, hid.symm⟩
    · rcases hg.underway ((h.row?_of_ne hid).symm.trans hrow) hr hcreated with ⟨g, hgf, hgid⟩
      exact ⟨g, List.mem_cons_of_mem f hgf, hgid⟩

theorem Grounded.start (hg : w.Grounded) (hnow : now.IsDatable) (device : String)
    (via : Option Transport.Kind) (command : Command) :
    (w.step now (.start device via command)).Grounded := by
  have hissues := issues_start now device via command w.bridge
  simp only [step]
  generalize w.bridge.start now device via command = result at hissues
  cases hissues with
  | missing => exact hg
  | offline => exact ⟨hg.reporting, hg.sound, hg.underway⟩
  | taken => exact ⟨hg.reporting, hg.sound, hg.underway⟩
  | issued h => exact hg.launch hnow h

theorem Grounded.finish (hw : w.Sound) (hg : w.Grounded) (hnow : now.IsDatable)
    (orderId : String) (sent : Except Transport.Failure Unit) :
    (w.step now (.finish orderId sent)).Grounded := by
  cases hflight : w.flight? orderId with
  | none =>
      simp only [step, hflight]
      exact hg
  | some f =>
      rcases flight?_eq_some hflight with ⟨hf, rfl⟩
      rcases ends_of_flight hw hnow hf sent with ⟨row, r, _, hends⟩
      rcases exists_step_finish now hflight sent with ⟨returned, hstep⟩
      rw [hstep]
      apply hg.land
      · rw [rest_finish]
      · exact fun hne => row?_finish_of_ne hne sent w.bridge
      · exact hends.of_row?

theorem Grounded.abandon (hg : w.Grounded) (orderId : String) :
    (w.step now (.abandon orderId)).Grounded := by
  cases hflight : w.flight? orderId with
  | none =>
      simp only [step, hflight]
      exact hg
  | some f =>
      simp only [step, hflight]
      rcases flight?_eq_some hflight with ⟨hf, rfl⟩
      refine hg.land rfl (fun hne => Store.row?_discard_of_ne w.bridge.store hne) ?_
      intro row' hrow'
      cases hrow : w.bridge.store.row? f.orderId with
      | none =>
          have hgone := Store.row?_discard_self w.bridge.store f.orderId
          rw [hrow] at hgone
          have hnone : none = some row' := hgone.symm.trans hrow'
          cases hnone
      | some row => exact Store.ne_created_of_discard hrow (hg.sound hrow) hrow'

theorem Grounded.step (hw : w.Sound) (hg : w.Grounded) (hnow : now.IsDatable) {deed : Deed}
    (hquiet : deed.IsQuiet) : (w.step now deed).Grounded := by
  cases hdeed : deed.isDispatch with
  | false =>
      rcases tends_step hg.reporting hnow hdeed hquiet with ⟨results, htends⟩
      exact hg.tends hnow htends
  | true =>
      cases deed with
      | start device via command => exact hg.start hnow device via command
      | finish orderId sent => exact hg.finish hw hnow orderId sent
      | abandon orderId => exact hg.abandon orderId
      | _ => cases hdeed

theorem Grounded.run (hw : w.Sound) (hg : w.Grounded) {deeds : List Entry}
    (hdeeds : Time.AllDatable deeds) (hquiet : ∀ e ∈ deeds, e.2.IsQuiet) :
    (w.run deeds).Grounded := by
  induction deeds generalizing w with
  | nil => exact hg
  | cons e deeds ih =>
      rcases hdeeds.cons with ⟨he, hrest⟩
      rcases List.forall_mem_cons.mp hquiet with ⟨hfirst, hothers⟩
      exact ih (hw.step he e.2) (hg.step hw he hfirst) hrest hothers

/-!
# Pending commands and the records behind them
-/

/-- Every pending command has a record behind it, and none has that of a template's order
under way. -/
structure Attended (w : World) : Prop where
  backed : ∀ {key c}, w.bridge.pending.find? key = some c →
    ∃ row, w.bridge.store.row? key = some row
  ordered : ∀ {f}, f ∈ w.flights → f.direct = false →
    w.bridge.pending.find? f.orderId = none

theorem attended_calm {b : Bridge} (hb : b.IsFresh) : (calm b).Attended where
  backed hfind := by
    rw [calm, hb.pending] at hfind
    cases hfind
  ordered := nofun

theorem Attended.find?_of_free (ha : w.Attended) {orderId : String}
    (h : w.bridge.store.row? orderId = none) : w.bridge.pending.find? orderId = none := by
  cases hfind : w.bridge.pending.find? orderId with
  | none => rfl
  | some c =>
      rcases ha.backed hfind with ⟨row, hrow⟩
      rw [h] at hrow
      cases hrow

theorem Attended.tends (ha : w.Attended) (hg : w.Grounded) (h : Tends now w w' results) :
    w'.Attended where
  backed {key c} hfind := by
    rcases ha.backed (h.resolves.find?_of_some hfind).2 with ⟨row, hrow⟩
    rcases h.settles key with ⟨lost, hsettles⟩
    rcases hsettles.row hrow (hg.sound hrow) with ⟨row', hrow', _⟩
    exact ⟨row', hrow'⟩
  ordered {f'} hf' hdirect := by
    rcases h.of_mem_flights hf' with ⟨f, hf, hid, hsame⟩
    rcases h.settles f'.orderId with ⟨lost, hsettles⟩
    apply hsettles.absent
    rw [← hid]
    exact ha.ordered hf (hsame.trans hdirect)

theorem Attended.land (ha : w.Attended) {f : Flight} {b : Bridge} {returned : List Flight}
    (hrow : ∀ {orderId}, orderId ≠ f.orderId →
      b.store.row? orderId = w.bridge.store.row? orderId)
    (hfind : ∀ {orderId}, orderId ≠ f.orderId →
      b.pending.find? orderId = w.bridge.pending.find? orderId)
    (hself : ∀ {c}, b.pending.find? f.orderId = some c →
      ∃ row, b.store.row? f.orderId = some row) :
    { bridge := b, flights := (w.land f.orderId).flights, returned : World }.Attended where
  backed {key c} hfound := by
    by_cases hid : key = f.orderId
    · subst hid
      exact hself hfound
    · rcases ha.backed ((hfind hid).symm.trans hfound) with ⟨row, hsame⟩
      exact ⟨row, (hrow hid).trans hsame⟩
  ordered {g} hg hdirect := by
    rcases mem_land_iff.mp hg with ⟨hold, hne⟩
    exact (hfind hne).trans (ha.ordered hold hdirect)

theorem Attended.launch (hw : w.Sound) (ha : w.Attended) {device : String}
    {via : Option Transport.Kind} {command : Command} {envelope : Envelope} {b : Bridge}
    {f : Flight} (hdirect : f.direct = command.isDirect)
    (h : Issued now device via command w.bridge envelope f.ticket b) :
    { w with bridge := b, flights := f :: w.flights }.Attended where
  backed {key c} hfind := by
    by_cases hid : key = f.ticket.orderId
    · subst hid
      exact ⟨_, h.row?_self⟩
    · rw [h.find?_of_ne hid] at hfind
      rcases ha.backed hfind with ⟨row, hrow⟩
      exact ⟨row, (h.row?_of_ne hid).trans hrow⟩
  ordered {g} hg hnot := by
    rcases List.mem_cons.mp hg with rfl | hold
    · have htext : command.text? = none := by
        rw [← Option.not_isSome_iff_eq_none, command.isSome_text?, ← hdirect, hnot]
        exact Bool.false_ne_true
      have hself := h.find?_self
      rw [htext] at hself
      exact hself.trans (ha.find?_of_free h.free)
    · have hne : g.orderId ≠ f.ticket.orderId := by
        intro hid
        rcases hw.flight hold with ⟨row, r, hcarried⟩
        have hfound := hcarried.found
        rw [hid, h.free] at hfound
        cases hfound
      exact (h.find?_of_ne hne).trans (ha.ordered hold hnot)

theorem Attended.start (hw : w.Sound) (ha : w.Attended) (device : String)
    (via : Option Transport.Kind) (command : Command) :
    (w.step now (.start device via command)).Attended := by
  have hissues := issues_start now device via command w.bridge
  simp only [World.step]
  generalize w.bridge.start now device via command = result at hissues
  cases hissues with
  | missing => exact ha
  | offline => exact ⟨ha.backed, ha.ordered⟩
  | taken => exact ⟨ha.backed, ha.ordered⟩
  | issued h => exact ha.launch hw rfl h

theorem Attended.finish (hw : w.Sound) (ha : w.Attended) (hnow : now.IsDatable)
    (orderId : String) (sent : Except Transport.Failure Unit) :
    (w.step now (.finish orderId sent)).Attended := by
  cases hflight : w.flight? orderId with
  | none =>
      simp only [World.step, hflight]
      exact ha
  | some f =>
      rcases flight?_eq_some hflight with ⟨hf, rfl⟩
      rcases ends_of_flight hw hnow hf sent with ⟨row, r, hcarried, hends⟩
      rcases exists_step_finish now hflight sent with ⟨returned, hstep⟩
      rw [hstep]
      apply ha.land
      · exact fun hne => row?_finish_of_ne hne sent w.bridge
      · exact fun hne => find?_finish_of_ne hne sent w.bridge
      · intro c hc
        generalize w.bridge.finish now f.ticket sent = result at hends hc
        rcases result with ⟨answer, b⟩
        cases hends with
        | sent hfound => exact ⟨_, hfound⟩
        | withdrawn _ hnone =>
            rw [hnone] at hc
            cases hc
        | overruled hfound => exact ⟨_, hfound⟩
        | failed _ hfound => exact ⟨_, hfound⟩

theorem Attended.step (hw : w.Sound) (hg : w.Grounded) (ha : w.Attended)
    (hnow : now.IsDatable) {deed : Deed} (hquiet : deed.IsQuiet)
    (hstays : deed.isAbandon = false) : (w.step now deed).Attended := by
  cases hdeed : deed.isDispatch with
  | false =>
      rcases tends_step hg.reporting hnow hdeed hquiet with ⟨results, htends⟩
      exact ha.tends hg htends
  | true =>
      cases deed with
      | start device via command => exact ha.start hw device via command
      | finish orderId sent => exact ha.finish hw hnow orderId sent
      | abandon orderId => cases hstays
      | _ => cases hdeed

theorem Attended.run (hw : w.Sound) (hg : w.Grounded) (ha : w.Attended) {deeds : List Entry}
    (hdeeds : Time.AllDatable deeds) (hquiet : ∀ e ∈ deeds, e.2.IsQuiet)
    (hstay : ∀ e ∈ deeds, e.2.isAbandon = false) : (w.run deeds).Attended := by
  induction deeds generalizing w with
  | nil => exact ha
  | cons e deeds ih =>
      rcases hdeeds.cons with ⟨he, hrest⟩
      rcases List.forall_mem_cons.mp hquiet with ⟨hfirst, hothers⟩
      rcases List.forall_mem_cons.mp hstay with ⟨hstays, hstay⟩
      exact ih (hw.step he e.2) (hg.step hw he hfirst)
        (ha.step hw hg he hfirst hstays) hrest hothers hstay

end

end World
end Bridge
end FleetBridge
