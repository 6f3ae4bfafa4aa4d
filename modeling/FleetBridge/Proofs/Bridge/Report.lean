import FleetBridge.Proofs.Bridge.Effect

/-!
# Results of commands

Apart from dispatches, a command leaves the pending ones and its result is published in
one step: the results that a step publishes are those of the commands that go, one for
each.  `Resolves` says so of a step as a whole.
-/

namespace FleetBridge

namespace Message

def Payload.result? : Payload → Option CommandResult
  | .commandResult r => some r
  | _ => none

end Message

namespace Bridge

open Message Record

def reports (b : Bridge) : List CommandResult :=
  b.published.filterMap (fun e => e.payload.result?)

theorem reports_report {b : Bridge} (h : b.reportsResults = true) (now : Time.Moment)
    (r : CommandResult) : (b.report now r).reports = b.reports ++ [r] := by
  simp only [report, h, if_true, publish, draw, reports, List.filterMap_append]
  rfl

theorem reportsResults_report (now : Time.Moment) (r : CommandResult) (b : Bridge) :
    (b.report now r).reportsResults = b.reportsResults := by
  unfold report
  split <;> rfl

theorem reports_observeStatus (now : Time.Moment) (device : String) (status : Summary)
    (b : Bridge) : (b.observeStatus now device status).reports = b.reports := by
  simp only [observeStatus]
  split
  · simp only [publish, draw, reports, List.filterMap_append]
    exact List.append_nil _
  · rfl

theorem reportsResults_observeStatus (now : Time.Moment) (device : String) (status : Summary)
    (b : Bridge) :
    (b.observeStatus now device status).reportsResults = b.reportsResults := by
  simp only [observeStatus]
  split <;> rfl

/-- A bridge that has seen a state, and not yet what it decides. -/
def noted (now : Time.Moment) (s : State) (b : Bridge) : Bridge :=
  { b with presence := b.presence.observeState now.instant s }.observeStatus now s.serialNumber
    s.summary

theorem handleState_eq (now : Time.Moment) (s : State) (b : Bridge) :
    b.handleState now s =
      forEach (settle now) (b.pending.correlate s).1
        { b.noted now s with pending := (b.pending.correlate s).2 } := by
  have hpending : (b.noted now s).pending = b.pending := pending_observeStatus _ _ _ _
  rw [← hpending]
  rfl

theorem rest_finalize (now : Time.Moment) (orderId : String) (status : Status)
    (message : Option String) (b : Bridge) :
    b.finalize now orderId status message =
      { b with store := (b.finalize now orderId status message).store } := by
  unfold finalize
  cases b.store.update now.instant orderId status message <;> rfl

theorem row?_finalize_of_unread {b : Bridge} {orderId : String}
    (h : ∀ r, b.store.get orderId ≠ .ok r) (now : Time.Moment) (target : String)
    (status : Status) (message : Option String) :
    (b.finalize now target status message).store.row? orderId = b.store.row? orderId := by
  by_cases hid : orderId = target
  · subst hid
    unfold finalize
    cases hupdate : b.store.update now.instant orderId status message with
    | error e => rfl
    | ok moved =>
        rcases Store.eq_modify_of_update hupdate with ⟨row, r, hrow, hr, _⟩
        exact absurd (Store.get_of_row? hrow hr) (h r)
  · exact row?_finalize_of_ne hid status message b

/-!
# Publishing one result after the other
-/

/-- An operation that publishes one result, and gives it back. -/
structure Announces {α : Type} (f : α → Bridge → CommandResult × Bridge)
    (word : α → CommandResult) : Prop where
  result : ∀ a b, (f a b).1 = word a
  reports : ∀ a {b : Bridge}, b.reportsResults = true →
    (f a b).2.reports = b.reports ++ [word a]
  reporting : ∀ a b, (f a b).2.reportsResults = b.reportsResults

theorem announces_conclude (now : Time.Moment) (status : Status) (verdict : Verdict)
    (message : Option String) :
    Announces (conclude now status verdict message) (fun c => c.result now verdict message) where
  result _ _ := rfl
  reports c b h := by
    have hrest := rest_finalize now c.key status message b
    have hreporting : (b.finalize now c.key status message).reportsResults = true := by
      rw [hrest]
      exact h
    have hreports : (b.finalize now c.key status message).reports = b.reports := by
      rw [hrest]
      rfl
    simp only [conclude]
    rw [reports_report hreporting, hreports]
  reporting c b := by
    simp only [conclude]
    rw [reportsResults_report, rest_finalize]

theorem announces_settle (now : Time.Moment) :
    Announces (settle now) (fun d => d.command.result now d.verdict d.message) where
  result _ _ := rfl
  reports d _ h := (announces_conclude now _ d.verdict d.message).reports d.command h
  reporting d b := (announces_conclude now _ d.verdict d.message).reporting d.command b

section

variable {α : Type} {f : α → Bridge → CommandResult × Bridge} {word : α → CommandResult}

theorem Announces.forEach_fst (h : Announces f word) (as : List α) (b : Bridge) :
    (forEach f as b).1 = as.map word := by
  induction as generalizing b with
  | nil => rfl
  | cons a rest ih =>
      simp only [forEach, List.map_cons]
      rw [h.result, ih]

theorem Announces.reporting_forEach (h : Announces f word) (as : List α) (b : Bridge) :
    (forEach f as b).2.reportsResults = b.reportsResults := by
  induction as generalizing b with
  | nil => rfl
  | cons a rest ih =>
      simp only [forEach]
      rw [ih, h.reporting]

theorem Announces.reports_forEach (h : Announces f word) (as : List α) {b : Bridge}
    (hb : b.reportsResults = true) :
    (forEach f as b).2.reports = b.reports ++ as.map word := by
  induction as generalizing b with
  | nil => exact (List.append_nil _).symm
  | cons a rest ih =>
      have hnext : (f a b).2.reportsResults = true := (h.reporting a b).trans hb
      simp only [forEach]
      rw [ih hnext, h.reports a hb, List.append_assoc, List.map_cons, List.singleton_append]

end

theorem Concludes.row?_forEach_of_unread {α β : Type} {now : Time.Moment}
    {f : α → Bridge → β × Bridge} {key : α → String} {status : α → Status}
    {message : α → Option String} (h : Concludes now f key status message) (as : List α)
    {b : Bridge} {orderId : String} (hget : ∀ r, b.store.get orderId ≠ .ok r) :
    (forEach f as b).2.store.row? orderId = b.store.row? orderId := by
  induction as generalizing b with
  | nil => rfl
  | cons a rest ih =>
      have hfirst : (f a b).2.store.row? orderId = b.store.row? orderId := by
        rw [h.store]
        exact row?_finalize_of_unread hget now _ _ _
      simp only [forEach]
      rw [ih, hfirst]
      intro r
      rw [Store.get, hfirst]
      exact hget r

theorem Concludes.row?_forEach_of_absent {α β : Type} {now : Time.Moment}
    {f : α → Bridge → β × Bridge} {key : α → String} {status : α → Status}
    {message : α → Option String} (h : Concludes now f key status message) (as : List α)
    {b : Bridge} {orderId : String} (habsent : b.store.row? orderId = none) :
    (forEach f as b).2.store.row? orderId = none := by
  rw [h.row?_forEach_of_unread as, habsent]
  intro r
  rw [Store.get_eq_notFound_iff.mpr habsent]
  nofun

/-!
# Steps that are no dispatches
-/

/-- The results that a step publishes, and the commands that go with them. -/
structure Resolves (b b' : Bridge) (results : List CommandResult) : Prop where
  reports : b'.reports = b.reports ++ results
  reporting : b'.reportsResults = b.reportsResults
  nodup : (results.map CommandResult.correlationKey).Nodup
  resolved : ∀ {r}, r ∈ results →
    ∃ c, b.pending.find? r.correlationKey = some c ∧ r.device = c.device ∧
      r.commandText = c.text ∧ b'.pending.find? r.correlationKey = none
  kept : ∀ {key}, key ∉ results.map CommandResult.correlationKey →
    b'.pending.find? key = b.pending.find? key
  absent : ∀ {orderId}, b.store.row? orderId = none → b'.store.row? orderId = none

section

variable {b b' start : Bridge} {results : List CommandResult}

theorem Resolves.of_same (hreports : b'.reports = b.reports)
    (hreporting : b'.reportsResults = b.reportsResults) (hpending : b'.pending = b.pending)
    (habsent : ∀ {orderId}, b.store.row? orderId = none → b'.store.row? orderId = none) :
    Resolves b b' [] where
  reports := by rw [hreports, List.append_nil]
  reporting := hreporting
  nodup := List.nodup_nil
  resolved := nofun
  kept _ := by rw [hpending]
  absent := habsent

theorem Resolves.congr (hreports : start.reports = b.reports)
    (hreporting : start.reportsResults = b.reportsResults) (hstore : start.store = b.store)
    (hpending : start.pending = b.pending) (h : Resolves start b' results) :
    Resolves b b' results where
  reports := hreports ▸ h.reports
  reporting := h.reporting.trans hreporting
  nodup := h.nodup
  resolved hr := hpending ▸ h.resolved hr
  kept hkey := hpending ▸ h.kept hkey
  absent hnone := by
    rw [← hstore] at hnone
    exact h.absent hnone

theorem Resolves.find?_of_none (h : Resolves b b' results) {key : String}
    (hfind : b.pending.find? key = none) :
    key ∉ results.map CommandResult.correlationKey ∧ b'.pending.find? key = none := by
  have hkey : key ∉ results.map CommandResult.correlationKey := by
    intro hmem
    rcases List.mem_map.mp hmem with ⟨r, hr, rfl⟩
    rcases h.resolved hr with ⟨_, hc, _⟩
    rw [hfind] at hc
    cases hc
  exact ⟨hkey, (h.kept hkey).trans hfind⟩

theorem Resolves.find?_of_some (h : Resolves b b' results) {key : String}
    {c : Pending.Command} (hfind : b'.pending.find? key = some c) :
    key ∉ results.map CommandResult.correlationKey ∧ b.pending.find? key = some c := by
  have hkey : key ∉ results.map CommandResult.correlationKey := by
    intro hmem
    rcases List.mem_map.mp hmem with ⟨r, hr, rfl⟩
    rcases h.resolved hr with ⟨_, _, _, _, hgone⟩
    rw [hgone] at hfind
    cases hfind
  exact ⟨hkey, h.kept hkey ▸ hfind⟩

end

/-- Commands that were taken out of the pending ones and end one after the other. -/
theorem resolves_forEach {α : Type} {now : Time.Moment}
    {f : α → Bridge → CommandResult × Bridge} {command : α → Pending.Command}
    {status : α → Status} {message : α → Option String} {verdict : α → Verdict}
    (hf : Concludes now f (fun a => (command a).key) status message)
    (hword : Announces f (fun a => (command a).result now (verdict a) (message a)))
    {as : List α} (hnodup : (as.map (fun a => (command a).key)).Nodup) {b : Bridge}
    (hb : b.reportsResults = true) {pending : Pending}
    (hfound : ∀ a ∈ as, b.pending.find? (command a).key = some (command a))
    (hgone : ∀ a ∈ as, pending.find? (command a).key = none)
    (hkept : ∀ {key}, (∀ a ∈ as, key ≠ (command a).key) →
      pending.find? key = b.pending.find? key) :
    Resolves b (forEach f as { b with pending }).2 (forEach f as { b with pending }).1 := by
  have hpending := hf.pending_forEach as { b with pending }
  rw [hword.forEach_fst]
  refine ⟨hword.reports_forEach as hb, hword.reporting_forEach as _, ?_, ?_, ?_,
    fun hnone => hf.row?_forEach_of_absent as hnone⟩
  · rw [List.map_map]
    exact hnodup
  · intro r hr
    rcases List.mem_map.mp hr with ⟨a, ha, rfl⟩
    rw [hpending]
    exact ⟨command a, hfound a ha, rfl, rfl, hgone a ha⟩
  · intro key hkey
    rw [hpending]
    apply hkept
    intro a ha heq
    rw [heq, List.map_map] at hkey
    exact hkey (List.mem_map_of_mem ha)

section

variable {b : Bridge} (hb : b.reportsResults = true)

include hb

theorem resolves_failCommands (now : Time.Moment) (p : Pending.Command → Bool)
    (reason : String) :
    Resolves b
      (failCommands now reason (b.pending.takeWhere p).1
        { b with pending := (b.pending.takeWhere p).2 }).2
      (failCommands now reason (b.pending.takeWhere p).1
        { b with pending := (b.pending.takeWhere p).2 }).1 := by
  apply @resolves_forEach _ now _ id _ _ (fun _ => Verdict.failure)
    (concludes_conclude now .failed .failure (some reason))
    (announces_conclude now .failed .failure (some reason)) _ (b.pending.nodup_takeWhere p) b hb
  · intro c hc
    exact Pending.find?_eq_some_iff.mpr ⟨(Pending.mem_takeWhere_iff.mp hc).1, rfl⟩
  · intro c hc
    exact Pending.find?_takeWhere_of_mem hc
  · intro key hkey
    exact Pending.find?_takeWhere_of_ne hkey

theorem resolves_handleState (now : Time.Moment) (s : State) :
    Resolves b (b.handleState now s).2 (b.handleState now s).1 := by
  have hreports : (b.noted now s).reports = b.reports := reports_observeStatus _ _ _ _
  have hreporting : (b.noted now s).reportsResults = b.reportsResults :=
    reportsResults_observeStatus _ _ _ _
  have hstore : (b.noted now s).store = b.store := store_observeStatus _ _ _ _
  have hpending : (b.noted now s).pending = b.pending := pending_observeStatus _ _ _ _
  apply Resolves.congr hreports hreporting hstore hpending
  rw [handleState_eq, ← hpending]
  apply @resolves_forEach _ now (settle now) Pending.Settlement.command _ _
    Pending.Settlement.verdict (concludes_settle now) (announces_settle now)
    ((b.noted now s).pending.correlate s).1 ((b.noted now s).pending.nodup_correlate s)
    (b.noted now s) (hreporting.trans hb)
  · intro d hd
    exact (Pending.find?_of_mem_correlate hd).1
  · intro d hd
    exact Pending.find?_correlate_of_mem hd
  · intro key hkey
    exact Pending.find?_correlate_of_ne hkey

theorem resolves_failDevice (now : Time.Moment) (device reason : String) :
    Resolves b (b.failDevice now device reason).2 (b.failDevice now device reason).1 :=
  resolves_failCommands hb now (fun c => c.device == device) reason

theorem resolves_handleConnection (now : Time.Moment) (c : Connection) :
    Resolves b (b.handleConnection now c).2 (b.handleConnection now c).1 := by
  unfold handleConnection
  by_cases honline : c.status.isOnline = true
  · rw [if_pos honline]
    exact Resolves.of_same rfl rfl rfl id
  · rw [if_neg honline]
    refine Resolves.congr ?_ ?_ ?_ ?_ (resolves_failDevice ?_ now _ _)
    · rfl
    · rfl
    · rfl
    · rfl
    · exact hb

theorem resolves_cancelOrder (now : Time.Moment) (target : String) :
    ∃ results, Resolves b (b.cancelOrder now target).2 results := by
  unfold cancelOrder updateOrder
  cases hupdate : b.store.update now.instant target .cancelled (some cancelReason) with
  | error e => exact ⟨[], Resolves.of_same rfl rfl rfl id⟩
  | ok moved =>
      rcases moved with ⟨record, store⟩
      have hchanges := Store.changes_of_update hupdate
      cases hfind : b.pending.find? target with
      | none =>
          simp only [hfind]
          exact ⟨[], Resolves.of_same rfl rfl rfl hchanges.absent⟩
      | some c =>
          simp only [hfind]
          have hkey := Pending.key_of_find? hfind
          refine ⟨[c.result now .failure (some cancelReason)], ?_, ?_, ?_, ?_, ?_, ?_⟩
          · exact @reports_report { b with store, pending := b.pending.erase target } hb now _
          · exact reportsResults_report now _ _
          · exact List.nodup_singleton _
          · intro r hr
            rw [List.mem_singleton.mp hr, pending_report]
            subst hkey
            exact ⟨c, hfind, rfl, rfl, Pending.find?_erase_self _ _⟩
          · intro key hnot
            rw [pending_report]
            apply Pending.find?_erase_of_ne
            intro heq
            apply hnot
            rw [heq, ← hkey]
            exact List.mem_singleton_self _
          · intro orderId hnone
            rw [store_report]
            exact hchanges.absent hnone

end

theorem resolves_updateOrder (now : Time.Moment) (target : String) (status : Status)
    (message : Option String) (b : Bridge) :
    Resolves b (b.updateOrder now target status message).2 [] := by
  unfold updateOrder
  cases hupdate : b.store.update now.instant target status message with
  | error e => exact Resolves.of_same rfl rfl rfl id
  | ok moved => exact Resolves.of_same rfl rfl rfl (Store.changes_of_update hupdate).absent

end Bridge
end FleetBridge
