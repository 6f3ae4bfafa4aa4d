import FleetBridge.Proofs.Bridge.Backing
import FleetBridge.Proofs.Bridge.Outcome
import FleetBridge.Proofs.Bridge.Outstanding
import FleetBridge.Proofs.Bridge.Telemetry
import Mathlib.Data.List.Induction

/-!
# The records behind pending commands

A command and its record are put down in one step, and are kept in two places.  Nothing
that happens later parts them but one thing: a caller who goes away while the payload is on
its way takes the record along, and leaves the command behind.
-/

namespace FleetBridge
namespace Bridge

open Message Record

/-!
# Steps that part nothing
-/

/-- A step that registers nothing and leaves the records of the commands that stay with
their robots. -/
structure Keeps (b b' : Bridge) : Prop where
  pending : ∀ {c}, c ∈ b'.pending.commands → c ∈ b.pending.commands
  device : ∀ {c}, c ∈ b'.pending.commands → b'.store.device? c.key = b.store.device? c.key

section

variable {b b' : Bridge}

theorem Keeps.of_retains (h : Retains b b')
    (hdevice : ∀ orderId, b'.store.device? orderId = b.store.device? orderId) : Keeps b b' where
  pending := h.pending
  device _ := hdevice _

theorem Keeps.of_same (hstore : b'.store = b.store) (hpending : b'.pending = b.pending) :
    Keeps b b' where
  pending hc := hpending ▸ hc
  device _ := by rw [hstore]

end

theorem Concludes.device?_forEach {α β : Type} {now : Time.Moment}
    {f : α → Bridge → β × Bridge} {key : α → String} {status : α → Status}
    {message : α → Option String} (h : Concludes now f key status message) (as : List α)
    (b : Bridge) (orderId : String) :
    (forEach f as b).2.store.device? orderId = b.store.device? orderId := by
  induction as generalizing b with
  | nil => rfl
  | cons a rest ih =>
      simp only [forEach]
      rw [ih, h.store, store_finalize]
      exact Store.device?_advance now.instant _ _ _ b.store orderId

section

variable (now : Time.Moment) (b : Bridge)

theorem keeps_handle (m : Telemetry) : Keeps b (m.handle now b).2 where
  pending hc := by
    rw [m.pending_handle] at hc
    exact (Telemetry.mem_remaining_iff.mp hc).1
  device _ := by
    rw [m.store_handle]
    exact device?_closed now _ _ _

theorem keeps_failCommands (p : Pending.Command → Bool) (reason : String) :
    Keeps b
      (failCommands now reason (b.pending.takeWhere p).1
        { b with pending := (b.pending.takeWhere p).2 }).2 :=
  Keeps.of_retains (retains_failCommands now b reason p)
    ((concludes_conclude now .failed .failure (some reason)).device?_forEach _ _)

theorem keeps_updateOrder (orderId : String) (status : Status) (message : Option String) :
    Keeps b (b.updateOrder now orderId status message).2 := by
  unfold updateOrder
  cases hupdate : b.store.update now.instant orderId status message with
  | error e => exact Keeps.of_same rfl rfl
  | ok moved => exact ⟨id, fun _ => (Store.changes_of_update hupdate).device? _⟩

theorem keeps_cancelOrder (orderId : String) : Keeps b (b.cancelOrder now orderId).2 := by
  apply Keeps.of_retains (retains_cancelOrder now b orderId)
  intro other
  unfold cancelOrder updateOrder
  cases hupdate : b.store.update now.instant orderId .cancelled (some cancelReason) with
  | error e => rfl
  | ok moved =>
      have hdevice := (Store.changes_of_update hupdate).device? other
      cases hfind : b.pending.find? orderId with
      | none =>
          simp only [hfind]
          exact hdevice
      | some c =>
          simp only [hfind]
          rw [store_report]
          exact hdevice

theorem store_recordOutcome_ok (orderId : String) (s : Store) :
    (recordOutcome now orderId (.ok ()) s).2 = (s.settle now.instant orderId .sent none).2 := by
  simp only [recordOutcome, Store.commitSent]
  split
  all_goals
    rename_i hresult
    rw [hresult]

theorem keeps_finish (t : Ticket) (sent : Except Transport.Failure Unit) :
    Keeps b (b.finish now t sent).2 := by
  refine ⟨(retains_finish now b t sent).pending, ?_⟩
  intro c hc
  cases sent with
  | ok _ =>
      have hstore : (b.finish now t (.ok ())).2.store =
          (recordOutcome now t.orderId (.ok ()) b.store).2 := by
        unfold finish
        split
        all_goals
          rename_i hresult
          rw [hresult]
      rw [hstore, store_recordOutcome_ok]
      exact Store.device?_settle _ _ _ _ _ _
  | error failure =>
      -- The command of the ticket is gone, and other records are left alone.
      rw [pending_finish_error] at hc
      have hne : c.key ≠ t.orderId := bne_iff_ne.mp (List.mem_filter.mp hc).2
      exact Store.device?_congr (row?_finish_of_ne hne _ b)

end

/-!
# The first step of a dispatch
-/

/-- What the first step of a dispatch has to do with a command that is pending after it. -/
inductive Starting (b b' : Bridge) (command : Command) (answer : Except Error Ticket)
    (c : Pending.Command) : Prop where
  | kept (hc : c ∈ b.pending.commands)
      (hdevice : b'.store.device? c.key = b.store.device? c.key)
  | registered (hdevice : b'.store.device? c.key = some c.device)
  | reused {t : Ticket} (hc : c ∈ b.pending.commands) (hanswer : answer = .ok t)
      (hkey : c.key = t.orderId) (hdirect : command.isDirect = false)
      (hfree : b.store.device? c.key = none)

theorem Issued.device? {now : Time.Moment} {device : String} {via : Option Transport.Kind}
    {command : Command} {b b' : Bridge} {envelope : Envelope} {t : Ticket}
    (h : Issued now device via command b envelope t b') (orderId : String) :
    b'.store.device? orderId =
      if orderId = t.orderId then some device else b.store.device? orderId := by
  rw [Store.device?_of_begin h.begun, command.orderId_draft, command.device_draft]

theorem starting_start (now : Time.Moment) (device : String) (via : Option Transport.Kind)
    (command : Command) (b : Bridge) {c : Pending.Command}
    (hc : c ∈ (b.start now device via command).2.pending.commands) :
    Starting b (b.start now device via command).2 command
      (b.start now device via command).1 c := by
  have hissues := issues_start now device via command b
  generalize b.start now device via command = result at hissues hc
  cases hissues with
  | missing => exact Starting.kept hc rfl
  | offline => exact Starting.kept hc rfl
  | taken => exact Starting.kept hc rfl
  | @issued envelope t b' h =>
      have hpending := h.pending
      have hdevice := h.device? c.key
      cases htext : command.text? with
      | none =>
          rw [htext] at hpending
          change c ∈ b'.pending.commands at hc
          rw [hpending] at hc
          by_cases hkey : c.key = t.orderId
          · apply Starting.reused hc rfl hkey
            · rw [← command.isSome_text?, htext]
              rfl
            · rw [hkey]
              exact Store.device?_eq_none_iff.mpr h.free
          · rw [if_neg hkey] at hdevice
            exact Starting.kept hc hdevice
      | some text =>
          rw [htext] at hpending
          change c ∈ b'.pending.commands at hc
          rw [hpending] at hc
          rcases List.mem_append.mp hc with hold | hnew
          · rcases List.mem_filter.mp hold with ⟨hmem, hkey⟩
            have hne : c.key ≠ t.orderId := bne_iff_ne.mp hkey
            rw [if_neg hne] at hdevice
            exact Starting.kept hmem hdevice
          · have heq := List.mem_singleton.mp hnew
            subst heq
            exact Starting.registered (hdevice.trans (if_pos rfl))

namespace World

/-!
# One step
-/

/-- A pending command whose payload is on its way while its record is new. -/
structure InSend (w : World) (c : Pending.Command) : Prop where
  pending : c ∈ w.bridge.pending.commands
  flight : ∃ f, w.flight? c.key = some f
  row : (w.bridge.store.row? c.key).any Row.isStranded = true

/-- What a step does to a command that is pending after it, and to the record behind it. -/
inductive Fate (now : Time.Moment) (deed : Deed) (w : World) (c : Pending.Command) : Prop where
  | kept (hc : c ∈ w.bridge.pending.commands)
      (hdevice : (w.step now deed).bridge.store.device? c.key = w.bridge.store.device? c.key)
  | registered (hdevice : (w.step now deed).bridge.store.device? c.key = some c.device)
  | reused {device : String} {via : Option Transport.Kind} {command : Command} {t : Ticket}
      (hc : c ∈ w.bridge.pending.commands) (hdeed : deed = .start device via command)
      (hanswer : (w.bridge.start now device via command).1 = .ok t)
      (hkey : c.key = t.orderId) (hdirect : command.isDirect = false)
      (hfree : w.bridge.store.device? c.key = none)
  | forsaken (hdeed : deed = .abandon c.key) (hsend : w.InSend c)
      (hdevice : (w.step now deed).bridge.store.device? c.key = none)

section

variable {w : World} {now : Time.Moment} {c : Pending.Command}

theorem Fate.of_keeps {deed : Deed} (h : Keeps w.bridge (w.step now deed).bridge)
    (hc : c ∈ (w.step now deed).bridge.pending.commands) : Fate now deed w c :=
  Fate.kept (h.pending hc) (h.device hc)

theorem bridge_step_start (w : World) (now : Time.Moment) (device : String)
    (via : Option Transport.Kind) (command : Command) :
    (w.step now (.start device via command)).bridge =
      (w.bridge.start now device via command).2 := by
  simp only [step]
  split
  all_goals
    rename_i hresult
    rw [hresult]

theorem fate_start {device : String} {via : Option Transport.Kind} {command : Command}
    (hc : c ∈ (w.step now (.start device via command)).bridge.pending.commands) :
    Fate now (.start device via command) w c := by
  have hbridge := bridge_step_start w now device via command
  rw [hbridge] at hc
  cases starting_start now device via command w.bridge hc with
  | kept hold hdevice => exact Fate.kept hold (hbridge ▸ hdevice)
  | registered hdevice => exact Fate.registered (hbridge ▸ hdevice)
  | reused hold hanswer hkey hdirect hfree =>
      exact Fate.reused hold rfl hanswer hkey hdirect hfree

theorem fate_abandon {orderId : String}
    (hc : c ∈ (w.step now (.abandon orderId)).bridge.pending.commands) :
    Fate now (.abandon orderId) w c := by
  cases hflight : w.flight? orderId with
  | none =>
      apply Fate.of_keeps _ hc
      simp only [step, hflight]
      exact Keeps.of_same rfl rfl
  | some f =>
  have hid := (flight?_eq_some hflight).2
  have hstep : (w.step now (.abandon orderId)).bridge = w.bridge.abandon f.ticket := by
    simp only [step, hflight]
  rw [hstep] at hc
  by_cases hkey : c.key = orderId
  · have hself := Store.device?_discard_self w.bridge.store f.ticket.orderId
    rw [show f.ticket.orderId = c.key from hid.trans hkey.symm] at hself
    have hdevice : (w.step now (.abandon orderId)).bridge.store.device? c.key =
        if (w.bridge.store.row? c.key).any Row.isStranded then none
        else w.bridge.store.device? c.key := by
      rw [hstep, ← hself, abandon, show f.ticket.orderId = c.key from hid.trans hkey.symm]
    cases hstranded : (w.bridge.store.row? c.key).any Row.isStranded with
    | true =>
        rw [hstranded, if_pos rfl] at hdevice
        refine Fate.forsaken (by rw [hkey]) ⟨hc, ⟨f, ?_⟩, hstranded⟩ hdevice
        rw [hkey]
        exact hflight
    | false =>
        rw [hstranded, if_neg Bool.false_ne_true] at hdevice
        exact Fate.kept hc hdevice
  · apply Fate.kept hc
    rw [hstep]
    apply Store.device?_congr
    apply Store.row?_discard_of_ne
    rw [show f.ticket.orderId = orderId from hid]
    exact hkey

theorem keeps_step_finish (w : World) (now : Time.Moment) (orderId : String)
    (sent : Except Transport.Failure Unit) :
    Keeps w.bridge (w.step now (.finish orderId sent)).bridge := by
  cases hflight : w.flight? orderId with
  | none =>
      simp only [step, hflight]
      exact Keeps.of_same rfl rfl
  | some f =>
      rcases flight?_eq_some hflight with ⟨_, rfl⟩
      rcases exists_step_finish now hflight sent with ⟨returned, hstep⟩
      rw [hstep]
      exact keeps_finish now w.bridge f.ticket sent

theorem keeps_step_recover (w : World) (now : Time.Moment) :
    Keeps w.bridge (w.step now .recover).bridge := by
  simp only [step]
  cases hrecover : w.bridge.store.recover now.instant with
  | error e => exact Keeps.of_same rfl rfl
  | ok recovered => exact ⟨id, fun _ => (Store.changes_of_recover hrecover).device? _⟩

theorem fate_step {deed : Deed} (hc : c ∈ (w.step now deed).bridge.pending.commands) :
    Fate now deed w c := by
  cases deed with
  | start device via command => exact fate_start hc
  | abandon orderId => exact fate_abandon hc
  | finish orderId sent => exact Fate.of_keeps (keeps_step_finish w now orderId sent) hc
  | state s => exact Fate.of_keeps (keeps_handle now w.bridge (.state s)) hc
  | connection n => exact Fate.of_keeps (keeps_handle now w.bridge (.connection n)) hc
  | factsheet f => exact Fate.of_keeps (keeps_handle now w.bridge (.factsheet f)) hc
  | expire ttl => exact Fate.of_keeps (keeps_failCommands now w.bridge _ _) hc
  | failAll reason => exact Fate.of_keeps (keeps_failCommands now w.bridge _ reason) hc
  | failDevice device reason => exact Fate.of_keeps (keeps_failCommands now w.bridge _ reason) hc
  | update orderId status message =>
      exact Fate.of_keeps (keeps_updateOrder now w.bridge orderId status message) hc
  | cancel orderId => exact Fate.of_keeps (keeps_cancelOrder now w.bridge orderId) hc
  | recover => exact Fate.of_keeps (keeps_step_recover w now) hc
  | elsewhere f => exact Fate.of_keeps (Keeps.of_same rfl rfl) hc

/-!
# Commands without a record
-/

/-- A command whose record is missing, or for another robot, was such a command before, or
its caller has just gone away. -/
theorem Fate.of_unbacked {deed : Deed} (h : Fate now deed w c)
    (hnot : (w.step now deed).bridge.store.device? c.key ≠ some c.device) :
    (c ∈ w.bridge.pending.commands ∧ w.bridge.store.device? c.key ≠ some c.device) ∨
      (deed = .abandon c.key ∧ w.InSend c) := by
  cases h with
  | kept hc hdevice =>
      rw [hdevice] at hnot
      exact Or.inl ⟨hc, hnot⟩
  | registered hdevice => exact absurd hdevice hnot
  | reused hc _ _ _ _ hfree =>
      rw [hfree]
      exact Or.inl ⟨hc, nofun⟩
  | forsaken hdeed hsend => exact Or.inr ⟨hdeed, hsend⟩

theorem InSend.abandon (h : w.InSend c) (now : Time.Moment) :
    c ∈ (w.step now (.abandon c.key)).bridge.pending.commands ∧
      (w.step now (.abandon c.key)).bridge.store.row? c.key = none := by
  rcases h with ⟨hpending, ⟨f, hflight⟩, hrow⟩
  have hid : f.ticket.orderId = c.key := (flight?_eq_some hflight).2
  have hself := Store.device?_discard_self w.bridge.store c.key
  rw [hrow, if_pos rfl] at hself
  simp only [step, hflight, Bridge.abandon, hid]
  exact ⟨hpending, Store.device?_eq_none_iff.mp hself⟩

end

/-- The caller who dispatched a command went away in the middle of the send. -/
def Forsaken (b : Bridge) (deeds : List Entry) (c : Pending.Command) : Prop :=
  ∃ before now after, deeds = before ++ (now, .abandon c.key) :: after ∧
    ((calm b).run before).InSend c

theorem Forsaken.append {b : Bridge} {deeds : List Entry} {c : Pending.Command}
    (h : Forsaken b deeds c) (later : List Entry) : Forsaken b (deeds ++ later) c := by
  rcases h with ⟨before, now, after, rfl, hsend⟩
  refine ⟨before, now, after ++ later, ?_, hsend⟩
  rw [List.append_assoc, List.cons_append]

theorem backed_or_forsaken {b : Bridge} (hb : b.pending = .empty) (deeds : List Entry)
    {c : Pending.Command} (hc : c ∈ ((calm b).run deeds).bridge.pending.commands) :
    ((calm b).run deeds).bridge.store.device? c.key = some c.device ∨ Forsaken b deeds c := by
  induction deeds using List.reverseRecOn with
  | nil => exact absurd hc (Pending.not_mem_of_eq_empty hb c)
  | append_singleton deeds e ih =>
      have hrun : (calm b).run (deeds ++ [e]) = ((calm b).run deeds).step e.1 e.2 := by
        rw [run, List.foldl_append]
        rfl
      rw [hrun] at hc ⊢
      by_cases hbacked : (((calm b).run deeds).step e.1 e.2).bridge.store.device? c.key =
          some c.device
      · exact Or.inl hbacked
      · right
        rcases (fate_step hc).of_unbacked hbacked with ⟨hold, hnot⟩ | ⟨hdeed, hsend⟩
        · rcases ih hold with hbefore | hforsaken
          · exact absurd hbefore hnot
          · exact hforsaken.append [e]
        · exact ⟨deeds, e.1, [], by rw [← hdeed], hsend⟩

theorem exists_get_of_device? {w : World} (hg : w.Grounded) {orderId device : String}
    (h : w.bridge.store.device? orderId = some device) :
    ∃ r, w.bridge.store.get orderId = .ok r ∧ r.device = device := by
  rcases Option.map_eq_some_iff.mp h with ⟨row, hrow, _⟩
  rcases hg.sound hrow with ⟨r, hr, _⟩
  have hget := Store.get_of_row? hrow hr
  refine ⟨r, hget, ?_⟩
  rw [Store.device?_of_get hget] at h
  exact Option.some.inj h

/-- In every run of a fresh bridge, and after each of its steps, a pending command has its
record, which is for the same robot and can be read as long as the clock can be written,
unless its caller went away in the middle of the send; and whoever does so leaves it
without a record. -/
theorem backed_unless_forsaken {b : Bridge} (hb : b.IsFresh) (deeds : List Entry)
    {c : Pending.Command} (hc : c ∈ ((calm b).run deeds).bridge.pending.commands) :
    let w := (calm b).run deeds
    (w.bridge.store.device? c.key = some c.device ∨ Forsaken b deeds c) ∧
      (Time.AllDatable deeds → (∀ e ∈ deeds, e.2.IsQuiet) →
        w.bridge.store.device? c.key = some c.device →
          ∃ r, w.bridge.store.get c.key = .ok r ∧ r.device = c.device) ∧
      (w.InSend c → ∀ now,
        c ∈ (w.step now (.abandon c.key)).bridge.pending.commands ∧
          (w.step now (.abandon c.key)).bridge.store.row? c.key = none) := by
  intro w
  refine ⟨backed_or_forsaken hb.pending deeds hc, ?_, fun hsend now => hsend.abandon now⟩
  intro hdeeds hquiet hbacked
  have hgrounded := (grounded_calm hb).run (sound_calm b) hdeeds hquiet
  exact exists_get_of_device? hgrounded hbacked

theorem backed_unless_forsaken_underway :
    let w := (calm idle).run underway
    ∃ c ∈ w.bridge.pending.commands, c.key = "raw-1" ∧
      (∃ r, w.bridge.store.get "raw-1" = .ok r ∧ r.device = "agv-01") ∧
      (w.step (second 3) (.abandon "raw-1")).bridge.store.row? "raw-1" = none := by
  intro w
  have hfresh : idle.IsFresh := ⟨rfl, rfl, rfl, rfl⟩
  have hdeeds : Time.AllDatable underway := by decide +kernel
  have hquiet : ∀ e ∈ underway, e.2.IsQuiet := by
    intro e he
    simp only [underway, List.mem_cons, List.not_mem_nil, or_false] at he
    rcases he with rfl | rfl <;> trivial
  have hpending : w.bridge.pending.commands ≠ [] := by decide +kernel
  have hfacts : ∀ c ∈ w.bridge.pending.commands, c.key = "raw-1" ∧ c.device = "agv-01" := by
    decide +kernel
  have hbacked : w.bridge.store.device? "raw-1" = some "agv-01" := by decide +kernel
  have hflight : (w.flight? "raw-1").isSome = true := by decide +kernel
  have hrow : (w.bridge.store.row? "raw-1").any Row.isStranded = true := by decide +kernel
  rcases List.exists_mem_of_ne_nil _ hpending with ⟨c, hc⟩
  rcases hfacts c hc with ⟨hkey, hdevice⟩
  rcases backed_unless_forsaken hfresh underway hc with ⟨_, hget, hforsaken⟩
  rw [hkey, hdevice] at hget
  have hsend : w.InSend c := by
    refine ⟨hc, ?_, ?_⟩
    · rw [hkey]
      exact Option.isSome_iff_exists.mp hflight
    · rw [hkey]
      exact hrow
  have hgone := (hforsaken hsend (second 3)).2
  rw [hkey] at hgone
  exact ⟨c, hc, hkey, hget hdeeds hquiet hbacked, hgone⟩

def forsakenUnderway : List Entry :=
  underway ++ [(second 3, .abandon "raw-1")]

/-- The command is pending still, and there is no record of it. -/
theorem exists_unbacked_forsakenUnderway :
    ∃ c ∈ ((calm idle).run forsakenUnderway).bridge.pending.commands,
      ((calm idle).run forsakenUnderway).bridge.store.get c.key = .error (.notFound c.key) := by
  have hkeys : ((calm idle).run forsakenUnderway).bridge.pending.commands.map
      Pending.Command.key = ["raw-1"] := by decide +kernel
  have hrow : ((calm idle).run forsakenUnderway).bridge.store.row? "raw-1" = none := by
    decide +kernel
  have hmem : "raw-1" ∈ ((calm idle).run forsakenUnderway).bridge.pending.commands.map
      Pending.Command.key := by
    rw [hkeys]
    exact List.mem_singleton_self _
  rcases List.mem_map.mp hmem with ⟨c, hc, hkey⟩
  refine ⟨c, hc, ?_⟩
  rw [hkey]
  exact Store.get_eq_notFound_iff.mpr hrow

/-!
# Whose records pending commands have
-/

/-- Whether a deed gives an order the identifier of a pending command. -/
def reuses (now : Time.Moment) (deed : Deed) (w : World) : Bool :=
  match deed with
  | .start device via command =>
      match (w.bridge.start now device via command).1 with
      | .ok t => !command.isDirect && (w.bridge.pending.find? t.orderId).isSome
      | .error _ => false
  | _ => false

/-- Whether no order is given the identifier of a pending command in a run. -/
def drawsFresh : List Entry → World → Bool
  | [], _ => true
  | e :: deeds, w => !w.reuses e.1 e.2 && drawsFresh deeds (w.step e.1 e.2)

end World

/-- The record behind a pending command, if there is one, is for the same robot. -/
def Owned (b : Bridge) : Prop :=
  ∀ c ∈ b.pending.commands, ∀ device, b.store.device? c.key = some device →
    device = c.device

namespace World

theorem Fate.of_owned {w : World} {now : Time.Moment} {deed : Deed} {c : Pending.Command}
    (h : Fate now deed w c) (hw : w.bridge.Owned) (hfresh : w.reuses now deed = false)
    {device : String} (hdevice : (w.step now deed).bridge.store.device? c.key = some device) :
    device = c.device := by
  cases h with
  | kept hc hsame => exact hw c hc device (hsame.symm.trans hdevice)
  | registered hown =>
      rw [hown] at hdevice
      exact (Option.some.inj hdevice).symm
  | reused hc hdeed hanswer hkey hdirect =>
      subst hdeed
      have hfind : w.bridge.pending.find? c.key = some c :=
        Pending.find?_eq_some_iff.mpr ⟨hc, rfl⟩
      simp only [reuses, hanswer, hdirect, ← hkey, hfind] at hfresh
      cases hfresh
  | forsaken _ _ hgone =>
      rw [hgone] at hdevice
      cases hdevice

theorem owned_of_drawsFresh {w : World} (hw : w.bridge.Owned) {deeds : List Entry}
    (hfresh : w.drawsFresh deeds = true) : (w.run deeds).bridge.Owned := by
  induction deeds generalizing w with
  | nil => exact hw
  | cons e deeds ih =>
      rcases Bool.and_eq_true_iff.mp hfresh with ⟨hfirst, hrest⟩
      have hreuses : w.reuses e.1 e.2 = false := by simpa using hfirst
      have hstep : (w.step e.1 e.2).bridge.Owned :=
        fun c hc device hdevice => (fate_step hc).of_owned hw hreuses hdevice
      exact ih hstep hrest

theorem owned_run {b : Bridge} (hb : b.pending = .empty) {deeds : List Entry}
    (hfresh : (∃ e ∈ deeds, e.2.isAbandon = true) → (calm b).drawsFresh deeds = true) :
    ((calm b).run deeds).bridge.Owned := by
  by_cases habandon : ∃ e ∈ deeds, e.2.isAbandon = true
  · apply owned_of_drawsFresh _ (hfresh habandon)
    intro c hc
    exact absurd hc (Pending.not_mem_of_eq_empty hb c)
  · intro c hc device hdevice
    rcases backed_or_forsaken hb deeds hc with hbacked | hforsaken
    · rw [hbacked] at hdevice
      exact (Option.some.inj hdevice).symm
    · rcases hforsaken with ⟨before, now, after, rfl, _⟩
      exact absurd ⟨_, List.mem_append_right _ List.mem_cons_self, rfl⟩ habandon

end World
end Bridge
end FleetBridge
