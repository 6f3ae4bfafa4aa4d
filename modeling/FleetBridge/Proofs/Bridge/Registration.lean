import FleetBridge.Proofs.Bridge.Backing
import FleetBridge.Proofs.Bridge.Outcome
import Mathlib.Data.List.Perm.Basic

/-!
# Commands are reported once

A journal keeps book of the commands that were registered in a run and of the results
that were published for each.  Six kinds of steps take commands from the pending ones;
whichever of them comes first, and however they mix, the accounts balance: a registered
command is waiting, or was reported once, or was withdrawn with its own send.
-/

namespace FleetBridge
namespace Bridge

open Message Record

/-- A command that was registered, and what has become of it. -/
structure Registration where
  key : String
  device : String
  text : String
  /-- Whether no other command was registered under its key since. -/
  latest : Bool
  results : List CommandResult
  /-- Whether its own send failed or was called off. -/
  refused : Bool

inductive Situation where
  | waiting
  | reported
  | withdrawn

namespace Registration

def In (pending : Pending) (g : Registration) : Situation → Prop
  | .waiting =>
      g.latest = true ∧ g.results = [] ∧
        ∃ c, pending.find? g.key = some c ∧ c.device = g.device ∧ c.text = g.text
  | .reported =>
      (g.latest = true → pending.find? g.key = none) ∧
        ∃ r, g.results = [r] ∧ r.correlationKey = g.key ∧ r.device = g.device ∧
          r.commandText = g.text
  | .withdrawn =>
      (g.latest = true → pending.find? g.key = none) ∧ g.results = [] ∧ g.refused = true

def supersede (key : String) (g : Registration) : Registration :=
  { g with latest := g.latest && g.key != key }

/-- Whether results under a key are those of this registration. -/
def answersTo (key : String) (g : Registration) : Bool :=
  g.latest && g.key == key

def credit (rs : List CommandResult) (g : Registration) : Registration :=
  { g with results := g.results ++ rs.filter (fun r => g.answersTo r.correlationKey) }

def refuse (key : String) (g : Registration) : Registration :=
  { g with refused := g.refused || g.answersTo key }

end Registration

/-- A world and the registrations so far, the last one first. -/
structure Journal where
  world : World
  registrations : List Registration

namespace Journal

def opened (b : Bridge) : Journal :=
  { world := World.calm b, registrations := [] }

/-- The registrations after the dispatch that a deed is part of: a command that is
registered supersedes those under its key, and one whose send goes wrong is marked. -/
def dispatched (now : Time.Moment) (deed : World.Deed) (j : Journal) : List Registration :=
  match deed with
  | .start device via command =>
      match (j.world.bridge.start now device via command).1, command.text? with
      | .ok t, some text =>
          { key := t.orderId, device, text, latest := true, results := [], refused := false } ::
            j.registrations.map (Registration.supersede t.orderId)
      | _, _ => j.registrations
  | .finish orderId (.error _) =>
      match j.world.flight? orderId with
      | some f =>
          if f.direct then j.registrations.map (Registration.refuse orderId)
          else j.registrations
      | none => j.registrations
  | _ => j.registrations

/-- The results that a deed publishes are put down for the last registrations under their
keys. -/
def step (now : Time.Moment) (deed : World.Deed) (j : Journal) : Journal :=
  let world := j.world.step now deed
  let news := world.bridge.reports.drop j.world.bridge.reports.length
  { world, registrations := (j.dispatched now deed).map (Registration.credit news) }

def run (deeds : List World.Entry) (j : Journal) : Journal :=
  deeds.foldl (fun j e => j.step e.1 e.2) j

theorem world_run (deeds : List World.Entry) (j : Journal) :
    (j.run deeds).world = j.world.run deeds := by
  induction deeds generalizing j with
  | nil => rfl
  | cons e deeds ih => exact ih (j.step e.1 e.2)

end Journal

/-!
# One registration
-/

namespace Registration

variable {b b' : Bridge} {results : List CommandResult} {g : Registration} {s : Situation}
  {pending pending' : Pending}

theorem In.eq_waiting (h : g.In pending s) (hlatest : g.latest = true) {c : Pending.Command}
    (hc : pending.find? g.key = some c) : s = .waiting := by
  cases s with
  | waiting => rfl
  | reported =>
      rw [h.1 hlatest] at hc
      cases hc
  | withdrawn =>
      rw [h.1 hlatest] at hc
      cases hc

theorem In.eq {s' : Situation} (h : g.In pending s) (h' : g.In pending s') : s = s' := by
  cases s with
  | waiting =>
      rcases h with ⟨hlatest, _, c, hc, _⟩
      exact (h'.eq_waiting hlatest hc).symm
  | reported =>
      rcases h.2 with ⟨r, hr, _⟩
      cases s' with
      | waiting =>
          rw [h'.2.1] at hr
          cases hr
      | reported => rfl
      | withdrawn =>
          rw [h'.2.1] at hr
          cases hr
  | withdrawn =>
      have hnil := h.2.1
      cases s' with
      | waiting =>
          rcases h' with ⟨hlatest, _, c, hc, _⟩
          exact h.eq_waiting hlatest hc
      | reported =>
          rcases h'.2 with ⟨r, hr, _⟩
          rw [hnil] at hr
          cases hr
      | withdrawn => rfl

theorem In.congr (h : g.In pending s) (hsame : pending'.find? g.key = pending.find? g.key) :
    g.In pending' s := by
  cases s with
  | waiting =>
      rcases h with ⟨hlatest, hnil, hc⟩
      exact ⟨hlatest, hnil, hsame ▸ hc⟩
  | reported =>
      rcases h with ⟨hnone, hr⟩
      exact ⟨fun hlatest => hsame.trans (hnone hlatest), hr⟩
  | withdrawn =>
      rcases h with ⟨hnone, hrefused⟩
      exact ⟨fun hlatest => hsame.trans (hnone hlatest), hrefused⟩

theorem answersTo_supersede_self (key : String) (g : Registration) :
    (g.supersede key).answersTo key = false := by
  by_cases hkey : g.key = key
  · simp [supersede, answersTo, hkey]
  · simp [supersede, answersTo, beq_false_of_ne hkey]

theorem answersTo_supersede_of_ne {key other : String} (h : other ≠ key) (g : Registration) :
    (g.supersede key).answersTo other = g.answersTo other := by
  by_cases hkey : g.key = other
  · simp [supersede, answersTo, hkey, bne, beq_false_of_ne h]
  · simp [supersede, answersTo, beq_false_of_ne hkey]

theorem credit_nil (g : Registration) : g.credit [] = g := by
  simp [credit]

theorem credit_of_not_mem (h : g.latest = true →
    g.key ∉ results.map CommandResult.correlationKey) : g.credit results = g := by
  have hnone : results.filter (fun r => g.answersTo r.correlationKey) = [] := by
    rw [List.filter_eq_nil_iff]
    intro r hr hanswers
    rcases Bool.and_eq_true_iff.mp hanswers with ⟨hlatest, hkey⟩
    apply h hlatest
    rw [beq_iff_eq.mp hkey]
    exact List.mem_map_of_mem hr
  rw [credit, hnone, List.append_nil]

theorem results_credit_of_mem (hnodup : (results.map CommandResult.correlationKey).Nodup)
    (hlatest : g.latest = true) {r : CommandResult} (hr : r ∈ results)
    (hkey : r.correlationKey = g.key) : (g.credit results).results = g.results ++ [r] := by
  have hone := filter_key_eq_singleton hnodup hr
  simp only [credit, answersTo, hlatest, Bool.true_and, ← hkey, hone]

/-- A command that leaves the pending ones is reported then, and only then. -/
theorem In.credit (h : g.In b.pending s) (hr : Resolves b b' results) :
    ∃ s', (g.credit results).In b'.pending s' := by
  -- What is not pending before is not pending after, and gets no result.
  have hgone : (g.latest = true → b.pending.find? g.key = none) →
      g.credit results = g ∧ (g.latest = true → b'.pending.find? g.key = none) := by
    intro hnone
    constructor
    · apply credit_of_not_mem
      intro hlatest
      exact (hr.find?_of_none (hnone hlatest)).1
    · intro hlatest
      exact (hr.find?_of_none (hnone hlatest)).2
  cases s with
  | waiting =>
      by_cases hmem : g.key ∈ results.map CommandResult.correlationKey
      · rcases h with ⟨hlatest, hnil, c, hc, hdevice, htext⟩
        rcases List.mem_map.mp hmem with ⟨r, hrmem, hkey⟩
        rcases hr.resolved hrmem with ⟨c', hc', hdevice', htext', hnone⟩
        rw [hkey, hc] at hc'
        cases hc'
        have hresults := results_credit_of_mem hr.nodup hlatest hrmem hkey
        rw [hnil, List.nil_append] at hresults
        refine ⟨.reported, fun _ => hkey ▸ hnone, r, hresults, hkey, ?_, ?_⟩
        · exact hdevice'.trans hdevice
        · exact htext'.trans htext
      · rw [credit_of_not_mem (fun _ => hmem)]
        exact ⟨.waiting, h.congr (hr.kept hmem)⟩
  | reported =>
      rcases hgone h.1 with ⟨hsame, hnone⟩
      rw [hsame]
      exact ⟨.reported, hnone, h.2⟩
  | withdrawn =>
      rcases hgone h.1 with ⟨hsame, hnone⟩
      rw [hsame]
      exact ⟨.withdrawn, hnone, h.2⟩

theorem In.supersede (h : g.In pending s) {key : String} (hfree : pending.find? key = none)
    (hother : ∀ {other}, other ≠ key → pending'.find? other = pending.find? other) :
    (g.supersede key).In pending' s := by
  by_cases hkey : g.key = key
  · cases s with
    | waiting =>
        rcases h with ⟨_, _, c, hc, _⟩
        rw [hkey, hfree] at hc
        cases hc
    | reported => exact ⟨by simp [Registration.supersede, hkey], h.2⟩
    | withdrawn => exact ⟨by simp [Registration.supersede, hkey], h.2⟩
  · have hsame : g.supersede key = g := by
      simp [Registration.supersede, bne, beq_false_of_ne hkey]
    rw [hsame]
    exact h.congr (hother hkey)

/-- A send that goes wrong withdraws its command, unless it was reported before. -/
theorem In.refuse (h : g.In pending s) {key : String} (hgone : pending'.find? key = none)
    (hother : ∀ {other}, other ≠ key → pending'.find? other = pending.find? other) :
    ∃ s', (g.refuse key).In pending' s' := by
  by_cases hkey : g.key = key
  · cases s with
    | waiting =>
        rcases h with ⟨hlatest, hnil, _⟩
        refine ⟨.withdrawn, fun _ => hkey ▸ hgone, hnil, ?_⟩
        simp [Registration.refuse, answersTo, hlatest, hkey]
    | reported => exact ⟨.reported, fun _ => hkey ▸ hgone, h.2⟩
    | withdrawn =>
        refine ⟨.withdrawn, fun _ => hkey ▸ hgone, h.2.1, ?_⟩
        simp [Registration.refuse, h.2.2]
  · have hsame : g.refuse key = g := by
      simp [Registration.refuse, answersTo, beq_false_of_ne hkey]
    rw [hsame]
    exact ⟨s, h.congr (hother hkey)⟩

end Registration

/-!
# All registrations
-/

section

variable {gs : List Registration} {rs : List CommandResult}

theorem flatMap_singleton_if (p : Registration → Bool) (r : CommandResult) :
    gs.flatMap (fun g => if p g then [r] else []) = (gs.filter p).map (fun _ => r) := by
  induction gs with
  | nil => rfl
  | cons g gs ih =>
      rw [List.flatMap_cons, List.filter_cons, ih]
      cases p g <;> rfl

theorem perm_answers (h : ∀ r ∈ rs, ∃ g,
    gs.filter (fun g => g.answersTo r.correlationKey) = [g]) :
    (gs.flatMap (fun g => rs.filter (fun r => g.answersTo r.correlationKey))).Perm rs := by
  induction rs with
  | nil => simp
  | cons r rs ih =>
      rcases List.forall_mem_cons.mp h with ⟨⟨g, hone⟩, hrest⟩
      have hfirst : gs.flatMap (fun g => if g.answersTo r.correlationKey then [r] else []) =
          [r] := by
        rw [flatMap_singleton_if, hone]
        rfl
      have hsplit : ∀ g : Registration,
          (r :: rs).filter (fun r => g.answersTo r.correlationKey) =
            (if g.answersTo r.correlationKey then [r] else []) ++
              rs.filter (fun r => g.answersTo r.correlationKey) := by
        intro g
        rw [List.filter_cons]
        cases g.answersTo r.correlationKey <;> rfl
      simp only [hsplit]
      have hperm := (List.flatMap_append_perm gs
        (fun g => if g.answersTo r.correlationKey then [r] else [])
        (fun g => rs.filter (fun r => g.answersTo r.correlationKey))).symm
      rw [hfirst] at hperm
      exact hperm.trans ((ih hrest).cons r)

theorem perm_credited (h : ∀ r ∈ rs, ∃ g,
    gs.filter (fun g => g.answersTo r.correlationKey) = [g]) :
    ((gs.map (Registration.credit rs)).flatMap Registration.results).Perm
      (gs.flatMap Registration.results ++ rs) := by
  have hperm := (List.flatMap_append_perm gs Registration.results
    (fun g => rs.filter (fun r => g.answersTo r.correlationKey))).symm
  rw [List.flatMap_map]
  exact hperm.trans ((perm_answers h).append_left _)

theorem filter_answersTo_map {f : Registration → Registration} {key : String}
    (hf : ∀ g, (f g).answersTo key = g.answersTo key) :
    (gs.map f).filter (fun g => g.answersTo key) =
      (gs.filter (fun g => g.answersTo key)).map f := by
  rw [List.filter_map]
  congr 2
  funext g
  exact hf g

end

/-- The accounts of a bridge: every registration is in some situation, every pending
command is that of one registration, and all that was published is put down. -/
structure Accounts (b : Bridge) (gs : List Registration) : Prop where
  settled : ∀ {g}, g ∈ gs → ∃ s, g.In b.pending s
  current : ∀ {key c}, b.pending.find? key = some c →
    ∃ g, gs.filter (fun g => g.answersTo key) = [g]
  conserved : (gs.flatMap Registration.results).Perm b.reports

section

variable {b b' : Bridge} {gs : List Registration} {results : List CommandResult}

theorem Accounts.congr (h : Accounts b gs)
    (hfind : ∀ key, b'.pending.find? key = b.pending.find? key)
    (hreports : b'.reports = b.reports) : Accounts b' gs where
  settled hg := by
    rcases h.settled hg with ⟨s, hs⟩
    exact ⟨s, hs.congr (hfind _)⟩
  current {key c} hc := h.current ((hfind key).symm.trans hc)
  conserved := hreports ▸ h.conserved

theorem Accounts.credit (h : Accounts b gs) (hr : Resolves b b' results) :
    Accounts b' (gs.map (Registration.credit results)) where
  settled {g'} hg' := by
    rcases List.mem_map.mp hg' with ⟨g, hg, rfl⟩
    rcases h.settled hg with ⟨s, hs⟩
    exact hs.credit hr
  current {key c} hc := by
    rcases h.current (hr.find?_of_some hc).2 with ⟨g, hone⟩
    have hsame : ∀ g : Registration, (g.credit results).answersTo key = g.answersTo key :=
      fun _ => rfl
    exact ⟨g.credit results, by rw [filter_answersTo_map hsame, hone, List.map_singleton]⟩
  conserved := by
    have hone : ∀ r ∈ results, ∃ g,
        gs.filter (fun g => g.answersTo r.correlationKey) = [g] := by
      intro r hmem
      rcases hr.resolved hmem with ⟨c, hc, _⟩
      exact h.current hc
    rw [hr.reports]
    exact (perm_credited hone).trans (h.conserved.append_right results)

theorem Accounts.register (h : Accounts b gs) {g : Registration} {c : Pending.Command}
    (hfree : b.pending.find? g.key = none) (hpending : b'.pending = b.pending.insert c)
    (hkey : c.key = g.key) (hreports : b'.reports = b.reports)
    (hg : g.In b'.pending .waiting) :
    Accounts b' (g :: gs.map (Registration.supersede g.key)) := by
  have hother : ∀ {other}, other ≠ g.key →
      b'.pending.find? other = b.pending.find? other := by
    intro other hne
    rw [hpending]
    apply Pending.find?_insert_of_ne
    rw [hkey]
    exact hne
  constructor
  · intro g' hg'
    rcases List.mem_cons.mp hg' with rfl | hold
    · exact ⟨.waiting, hg⟩
    · rcases List.mem_map.mp hold with ⟨old, hmem, rfl⟩
      rcases h.settled hmem with ⟨s, hs⟩
      exact ⟨s, hs.supersede hfree hother⟩
  · intro key c' hc'
    by_cases hid : key = g.key
    · subst hid
      have hself : g.answersTo g.key = true := by simp [Registration.answersTo, hg.1]
      have hnone : (gs.map (Registration.supersede g.key)).filter
          (fun g' => g'.answersTo g.key) = [] := by
        rw [List.filter_eq_nil_iff]
        intro g' hg'
        rcases List.mem_map.mp hg' with ⟨old, _, rfl⟩
        rw [Registration.answersTo_supersede_self]
        exact Bool.false_ne_true
      exact ⟨g, by rw [List.filter_cons, if_pos hself, hnone]⟩
    · have hnot : ¬ g.answersTo key = true := by
        simp [Registration.answersTo, beq_false_of_ne (Ne.symm hid)]
      have hsame : ∀ old : Registration,
          (old.supersede g.key).answersTo key = old.answersTo key :=
        fun old => old.answersTo_supersede_of_ne hid
      rcases h.current ((hother hid).symm.trans hc') with ⟨old, hone⟩
      refine ⟨old.supersede g.key, ?_⟩
      rw [List.filter_cons, if_neg hnot, filter_answersTo_map hsame, hone, List.map_singleton]
  · rw [List.flatMap_cons, hg.2.1, List.nil_append, List.flatMap_map, hreports]
    exact h.conserved

theorem Accounts.refuse (h : Accounts b gs) {key : String}
    (hgone : b'.pending.find? key = none)
    (hother : ∀ {other}, other ≠ key → b'.pending.find? other = b.pending.find? other)
    (hreports : b'.reports = b.reports) :
    Accounts b' (gs.map (Registration.refuse key)) where
  settled {g'} hg' := by
    rcases List.mem_map.mp hg' with ⟨g, hg, rfl⟩
    rcases h.settled hg with ⟨s, hs⟩
    exact hs.refuse hgone hother
  current {other c} hc := by
    have hne : other ≠ key := by
      intro hid
      rw [hid, hgone] at hc
      cases hc
    rcases h.current ((hother hne).symm.trans hc) with ⟨g, hone⟩
    have hsame : ∀ g : Registration, (g.refuse key).answersTo other = g.answersTo other :=
      fun _ => rfl
    exact ⟨g.refuse key, by rw [filter_answersTo_map hsame, hone, List.map_singleton]⟩
  conserved := by
    rw [List.flatMap_map, hreports]
    exact h.conserved

end

namespace Journal

structure Sound (j : Journal) : Prop where
  world : j.world.Sound
  grounded : j.world.Grounded
  attended : j.world.Attended
  accounts : Accounts j.world.bridge j.registrations

theorem sound_opened {b : Bridge} (hb : b.IsFresh) : (opened b).Sound where
  world := World.sound_calm b
  grounded := World.grounded_calm hb
  attended := World.attended_calm hb
  accounts := by
    constructor
    · nofun
    · intro key c hc
      simp only [opened, World.calm, hb.pending] at hc
      cases hc
    · show ([] : List CommandResult).Perm b.reports
      rw [reports, hb.published, List.filterMap_nil]

section

variable {j : Journal} {now : Time.Moment}

theorem step_of_silent {deed : World.Deed}
    (h : (j.world.step now deed).bridge.reports = j.world.bridge.reports) :
    j.step now deed =
      { world := j.world.step now deed, registrations := j.dispatched now deed } := by
  have hnews : (j.dispatched now deed).map (Registration.credit []) = j.dispatched now deed := by
    rw [List.map_congr_left (fun g _ => g.credit_nil), List.map_id']
  simp only [step]
  rw [h, List.drop_length, hnews]

theorem dispatched_of_not_isDispatch {deed : World.Deed} (h : deed.isDispatch = false) :
    j.dispatched now deed = j.registrations := by
  cases deed with
  | start device via command => cases h
  | finish orderId sent => cases h
  | _ => rfl

theorem reports_start (w : World) (now : Time.Moment) (device : String)
    (via : Option Transport.Kind) (command : Command) :
    (w.step now (.start device via command)).bridge.reports = w.bridge.reports := by
  have hissues := issues_start now device via command w.bridge
  simp only [World.step]
  generalize w.bridge.start now device via command = result at hissues
  cases hissues with
  | missing => rfl
  | offline => rfl
  | taken => rfl
  | issued h =>
      show Bridge.reports _ = _
      rw [h.rest]
      rfl

theorem reports_finish (w : World) (now : Time.Moment) (orderId : String)
    (sent : Except Transport.Failure Unit) :
    (w.step now (.finish orderId sent)).bridge.reports = w.bridge.reports := by
  cases hflight : w.flight? orderId with
  | none => simp only [World.step, hflight]
  | some f =>
      rcases World.flight?_eq_some hflight with ⟨_, rfl⟩
      rcases World.exists_step_finish now hflight sent with ⟨returned, hstep⟩
      rw [hstep]
      show Bridge.reports _ = _
      rw [rest_finish]
      rfl

theorem Sound.accounts_start (hj : j.Sound) (now : Time.Moment) (device : String)
    (via : Option Transport.Kind) (command : Command) :
    Accounts (j.world.step now (.start device via command)).bridge
      (j.dispatched now (.start device via command)) := by
  have hreports := reports_start j.world now device via command
  have hissues := issues_start now device via command j.world.bridge
  simp only [World.step, dispatched] at hreports ⊢
  generalize j.world.bridge.start now device via command = result at hissues hreports
  cases hissues with
  | missing => exact hj.accounts
  | offline => exact hj.accounts.congr (fun _ => rfl) rfl
  | taken => exact hj.accounts.congr (fun _ => rfl) rfl
  | @issued envelope t b h =>
      have hpending := h.pending
      cases htext : command.text? with
      | none =>
          rw [htext] at hpending
          exact hj.accounts.congr (fun _ => by rw [hpending]) hreports
      | some text =>
          rw [htext] at hpending
          have hself := h.find?_self
          rw [htext] at hself
          exact hj.accounts.register (hj.attended.find?_of_free h.free) hpending rfl hreports
            ⟨rfl, rfl, _, hself, rfl, rfl⟩

theorem Sound.accounts_finish (hj : j.Sound) (hnow : now.IsDatable) (orderId : String)
    (sent : Except Transport.Failure Unit) :
    Accounts (j.world.step now (.finish orderId sent)).bridge
      (j.dispatched now (.finish orderId sent)) := by
  have hreports := reports_finish j.world now orderId sent
  cases hflight : j.world.flight? orderId with
  | none =>
      have hsame : j.dispatched now (.finish orderId sent) = j.registrations := by
        cases sent <;> simp only [dispatched, hflight]
      rw [hsame]
      simp only [World.step, hflight]
      exact hj.accounts
  | some f =>
      rcases World.flight?_eq_some hflight with ⟨hf, rfl⟩
      rcases hj.world.flight hf with ⟨row, r, hcarried⟩
      rcases World.exists_step_finish now hflight sent with ⟨returned, hstep⟩
      rw [hstep] at hreports ⊢
      cases sent with
      | ok _ =>
          have hpending := pending_finish_ok hnow hcarried.found hcarried.read
          exact hj.accounts.congr (fun _ => congrArg _ hpending) hreports
      | error failure =>
          have hpending := pending_finish_error now f.ticket failure j.world.bridge
          have hgone : (j.world.bridge.finish now f.ticket (.error failure)).2.pending.find?
              f.orderId = none := by
            rw [hpending]
            exact Pending.find?_erase_self _ _
          have hother : ∀ {other}, other ≠ f.orderId →
              (j.world.bridge.finish now f.ticket (.error failure)).2.pending.find? other =
                j.world.bridge.pending.find? other :=
            fun hne => find?_finish_of_ne hne (.error failure) j.world.bridge
          simp only [dispatched, hflight]
          cases hdirect : f.direct with
          | true => exact hj.accounts.refuse hgone hother hreports
          | false =>
              -- The order of a template has no command, so nothing is lost with it.
              refine hj.accounts.congr ?_ hreports
              intro key
              by_cases hid : key = f.orderId
              · rw [hid, hgone, hj.attended.ordered hf hdirect]
              · exact hother hid

theorem Sound.step (hj : j.Sound) (hnow : now.IsDatable) {deed : World.Deed}
    (hquiet : deed.IsQuiet) (hstays : deed.isAbandon = false) : (j.step now deed).Sound where
  world := hj.world.step hnow deed
  grounded := hj.grounded.step hj.world hnow hquiet
  attended := hj.attended.step hj.world hj.grounded hnow hquiet hstays
  accounts := by
    cases hdeed : deed.isDispatch with
    | false =>
        rcases World.tends_step hj.grounded.reporting hnow hdeed hquiet with ⟨results, htends⟩
        have hcredit := hj.accounts.credit htends.resolves
        simp only [Journal.step]
        rw [dispatched_of_not_isDispatch hdeed, htends.resolves.reports, List.drop_left]
        exact hcredit
    | true =>
        cases deed with
        | start device via command =>
            rw [step_of_silent (reports_start j.world now device via command)]
            exact hj.accounts_start now device via command
        | finish orderId sent =>
            rw [step_of_silent (reports_finish j.world now orderId sent)]
            exact hj.accounts_finish hnow orderId sent
        | abandon orderId => cases hstays
        | _ => cases hdeed

theorem Sound.run (hj : j.Sound) {deeds : List World.Entry} (hdeeds : Time.AllDatable deeds)
    (hquiet : ∀ e ∈ deeds, e.2.IsQuiet) (hstay : ∀ e ∈ deeds, e.2.isAbandon = false) :
    (j.run deeds).Sound := by
  induction deeds generalizing j with
  | nil => exact hj
  | cons e deeds ih =>
      rcases hdeeds.cons with ⟨he, hrest⟩
      rcases List.forall_mem_cons.mp hquiet with ⟨hfirst, hothers⟩
      rcases List.forall_mem_cons.mp hstay with ⟨hstays, hstay⟩
      exact ih (hj.step he hfirst hstays) hrest hothers hstay

end

structure Balanced (j : Journal) : Prop where
  situation : ∀ {g}, g ∈ j.registrations → ∃! s, g.In j.world.bridge.pending s
  live : ∀ {c}, c ∈ j.world.bridge.pending.commands →
    ∃ g ∈ j.registrations, g.key = c.key ∧ g.In j.world.bridge.pending .waiting
  fresh : ∀ {now device via command t b'},
    j.world.bridge.start now device via command = (.ok t, b') →
    j.world.bridge.pending.find? t.orderId = none
  conserved : (j.registrations.flatMap Registration.results).Perm j.world.bridge.reports

theorem Sound.balanced {j : Journal} (hj : j.Sound) : j.Balanced where
  situation hg := by
    rcases hj.accounts.settled hg with ⟨s, hs⟩
    exact ⟨s, hs, fun s' hs' => hs'.eq hs⟩
  live {c} hc := by
    have hfind : j.world.bridge.pending.find? c.key = some c :=
      Pending.find?_eq_some_iff.mpr ⟨hc, rfl⟩
    rcases hj.accounts.current hfind with ⟨g, hone⟩
    have hmem : g ∈ j.registrations.filter (fun g => g.answersTo c.key) := by
      rw [hone]
      exact List.mem_singleton_self g
    rcases List.mem_filter.mp hmem with ⟨hg, hanswers⟩
    rcases Bool.and_eq_true_iff.mp hanswers with ⟨hlatest, hkey⟩
    have hkey := beq_iff_eq.mp hkey
    rw [← hkey] at hfind
    rcases hj.accounts.settled hg with ⟨s, hs⟩
    have hwaiting := hs.eq_waiting hlatest hfind
    subst hwaiting
    exact ⟨g, hg, hkey, hs⟩
  fresh {now device via command t b'} hstart := by
    have hissues := issues_start now device via command j.world.bridge
    rw [hstart] at hissues
    cases hissues with
    | issued h => exact hj.attended.find?_of_free h.free
  conserved := hj.accounts.conserved

/-- In every run from a bridge that is fresh, commands are registered side by side, and
each of them is waiting, or was reported once, or was withdrawn with its own send. -/
theorem balanced_run {b : Bridge} (hb : b.IsFresh) {deeds : List World.Entry}
    (hdeeds : Time.AllDatable deeds) (hquiet : ∀ e ∈ deeds, e.2.IsQuiet)
    (hstay : ∀ e ∈ deeds, e.2.isAbandon = false) :
    ((opened b).run deeds).world = (World.calm b).run deeds ∧
      ((opened b).run deeds).Balanced :=
  ⟨world_run deeds (opened b), ((sound_opened hb).run hdeeds hquiet hstay).balanced⟩

/-- The robot is done before the transport answers, and the answer is that the send has
failed. -/
def answeredEarly : List World.Entry :=
  underway ++
    [ (second 3, .state picked),
      (second 4, .finish "raw-1" (.error (.notConnected .queue))) ]

theorem balanced_run_answeredEarly :
    ∃ g ∈ ((opened idle).run answeredEarly).registrations,
      g.key = "raw-1" ∧ g.refused = true ∧
        g.In ((opened idle).run answeredEarly).world.bridge.pending .reported := by
  have hdeeds : Time.AllDatable answeredEarly := by decide +kernel
  have hquiet : ∀ e ∈ answeredEarly, e.2.IsQuiet := by
    intro e he
    simp only [answeredEarly, underway, List.cons_append, List.nil_append, List.mem_cons,
      List.not_mem_nil, or_false] at he
    rcases he with rfl | rfl | rfl | rfl <;> trivial
  have hstay : ∀ e ∈ answeredEarly, e.2.isAbandon = false := by decide +kernel
  have hsome : ((opened idle).run answeredEarly).registrations ≠ [] := by decide +kernel
  have hfacts : ∀ g ∈ ((opened idle).run answeredEarly).registrations,
      g.key = "raw-1" ∧ g.refused = true ∧ g.results.length = 1 := by decide +kernel
  rcases List.exists_mem_of_ne_nil _ hsome with ⟨g, hg⟩
  rcases hfacts g hg with ⟨hkey, hrefused, hlength⟩
  rcases (balanced_run ⟨rfl, rfl, rfl, rfl⟩ hdeeds hquiet hstay).2.situation hg with
    ⟨s, hs, _⟩
  refine ⟨g, hg, hkey, hrefused, ?_⟩
  cases s with
  | waiting =>
      rw [hs.2.1] at hlength
      cases hlength
  | reported => exact hs
  | withdrawn =>
      rw [hs.2.1] at hlength
      cases hlength

end Journal
end Bridge
end FleetBridge
