import FleetBridge.Proofs.Bridge.Finalisation

/-!
# What a state decides

A state settles the commands of its robot that it decides, and no others.  A command is
decided by the action states that concern it: one that failed decides it at once, and else
all that it waits for have to be there and finished.  The order in which the commands are
looked at makes no difference.
-/

namespace FleetBridge

open Message

namespace Message.Verdict

theorem ofStates_eq_failure_iff {states : List ActionState} :
    ofStates states = .failure ↔ ∃ a ∈ states, a.status = .failed := by
  constructor
  · intro h
    simpa using any_of_ofStates h
  · intro h
    have hany : states.any (fun a => a.status == .failed) = true := by simpa using h
    unfold ofStates
    rw [if_pos hany]

theorem ofStates_eq_success_iff {states : List ActionState} :
    ofStates states = .success ↔
      states ≠ [] ∧ ∀ a ∈ states, a.status = .finished := by
  unfold ofStates
  by_cases hany : states.any (fun a => a.status == .failed) = true
  · rw [if_pos hany]
    constructor
    · intro h
      cases h
    · intro h
      rcases List.any_eq_true.mp hany with ⟨a, ha, hfailed⟩
      have hfinished := h.2 a ha
      rw [hfinished] at hfailed
      cases hfailed
  · rw [if_neg hany]
    cases states with
    | nil => simp
    | cons a rest => simp

end Message.Verdict

namespace Pending
namespace Command

def Concerns (m : State) (c : Command) (a : ActionState) : Prop :=
  a.actionId ∈ c.actionIds ∨ c.actionIds = [] ∧ m.orderId ≠ "" ∧ c.key = m.orderId

instance (m : State) (c : Command) (a : ActionState) : Decidable (Concerns m c a) :=
  inferInstanceAs (Decidable (_ ∨ _))

inductive Decides (m : State) (c : Command) : Verdict → Option String → Prop where
  | failed {before after : List ActionState} {a : ActionState}
      (hstates : m.actionStates = before ++ a :: after) (ha : Concerns m c a)
      (hfailed : a.status = .failed)
      (hfirst : ∀ other ∈ before, Concerns m c other → other.status ≠ .failed) :
      Decides m c .failure (some a.failureText)
  | finished {a : ActionState} (hmem : a ∈ m.actionStates) (ha : Concerns m c a)
      (hfinished : ∀ other ∈ m.actionStates, Concerns m c other → other.status = .finished)
      (hreported : ∀ id ∈ c.actionIds, ∃ other ∈ m.actionStates, other.actionId = id) :
      Decides m c .success none

section

variable {m : State} {c : Command}

theorem isActiveIn_iff : c.isActiveIn m = true ↔ m.orderId ≠ "" ∧ c.key = m.orderId := by
  unfold isActiveIn State.activeOrder?
  by_cases h : m.orderId = ""
  · simp [h]
  · simp only [h, String.isEmpty_iff, if_false, beq_iff_eq, Option.some.injEq, ne_eq,
      not_false_eq_true, true_and]
    exact eq_comm

theorem relevant_eq_filter (m : State) (c : Command) :
    c.relevant m = m.actionStates.filter (fun a => Concerns m c a) := by
  unfold relevant
  by_cases hids : c.actionIds = []
  · by_cases hactive : c.isActiveIn m = true
    · have hall : ∀ a ∈ m.actionStates, decide (Concerns m c a) = true := by
        intro a _
        exact decide_eq_true (Or.inr ⟨hids, isActiveIn_iff.mp hactive⟩)
      simp only [hids, hactive, List.isEmpty_nil, Bool.and_true, if_true]
      exact (List.filter_eq_self.mpr hall).symm
    · simp [Concerns, hids, hactive, ← isActiveIn_iff]
  · simp [Concerns, hids]

theorem mem_relevant_iff {a : ActionState} :
    a ∈ c.relevant m ↔ a ∈ m.actionStates ∧ Concerns m c a := by
  rw [relevant_eq_filter, List.mem_filter, decide_eq_true_iff]

theorem allReported_iff {c : Command} :
    c.allReported (c.relevant m) = true ↔
      ∀ id ∈ c.actionIds, ∃ a ∈ m.actionStates, a.actionId = id := by
  simp only [allReported, List.all_eq_true, List.any_eq_true, beq_iff_eq]
  constructor
  · intro h id hid
    rcases h id hid with ⟨a, ha, hid'⟩
    exact ⟨a, (mem_relevant_iff.mp ha).1, hid'⟩
  · intro h id hid
    rcases h id hid with ⟨a, ha, rfl⟩
    exact ⟨a, mem_relevant_iff.mpr ⟨ha, Or.inl hid⟩, rfl⟩

theorem verdict_eq_failure_iff :
    c.verdict m = .failure ↔ ∃ a ∈ c.relevant m, a.status = .failed := by
  rw [← Verdict.ofStates_eq_failure_iff]
  constructor
  · exact ofStates_of_verdict
  · intro h
    simp only [verdict, h]

theorem verdict_eq_success_iff :
    c.verdict m = .success ↔
      Verdict.ofStates (c.relevant m) = .success ∧ c.allReported (c.relevant m) = true := by
  simp only [verdict]
  cases Verdict.ofStates (c.relevant m) with
  | failure => simp
  | inProgress => simp
  | success => cases c.allReported (c.relevant m) <;> simp

/-- The first of the failed states is the one whose words are told. -/
theorem failureReason?_eq_some_iff {message : String} :
    failureReason? (c.relevant m) = some message ↔
      ∃ before a after, m.actionStates = before ++ a :: after ∧ Concerns m c a ∧
        a.status = .failed ∧
        (∀ other ∈ before, Concerns m c other → other.status ≠ .failed) ∧
        message = a.failureText := by
  rw [failureReason?, relevant_eq_filter, List.find?_filter, Option.map_eq_some_iff]
  constructor
  · intro h
    rcases h with ⟨a, hfind, rfl⟩
    rcases List.find?_eq_some_iff_append.mp hfind with ⟨ha, before, after, hsplit, hbefore⟩
    simp only [decide_eq_true_eq, beq_iff_eq] at ha
    refine ⟨before, a, after, hsplit, ha.1, ha.2, ?_, rfl⟩
    intro other hmem hconcerns hfailed
    have hother := hbefore other hmem
    simp [hconcerns, hfailed] at hother
  · intro h
    rcases h with ⟨before, a, after, hsplit, hconcerns, hfailed, hbefore, rfl⟩
    refine ⟨a, List.find?_eq_some_iff_append.mpr ⟨?_, before, after, hsplit, ?_⟩, rfl⟩
    · simp [hconcerns, hfailed]
    · intro other hmem
      by_cases hother : Concerns m c other
      · simp [hother, hbefore other hmem hother]
      · simp [hother]

theorem decides_failure_iff {message : Option String} :
    Decides m c .failure message ↔
      c.verdict m = .failure ∧ message = failureReason? (c.relevant m) := by
  constructor
  · intro h
    cases h with
    | @failed before after a hstates ha hfailed hfirst =>
        have hmem : a ∈ c.relevant m := by
          apply mem_relevant_iff.mpr
          rw [hstates]
          exact ⟨List.mem_append_right before List.mem_cons_self, ha⟩
        have hreason : failureReason? (c.relevant m) = some a.failureText :=
          failureReason?_eq_some_iff.mpr ⟨before, a, after, hstates, ha, hfailed, hfirst, rfl⟩
        exact ⟨verdict_eq_failure_iff.mpr ⟨a, hmem, hfailed⟩, hreason.symm⟩
  · intro h
    rcases h with ⟨hverdict, rfl⟩
    rcases exists_reason hverdict with ⟨message, hmessage, _, _⟩
    rcases failureReason?_eq_some_iff.mp hmessage with
      ⟨before, a, after, hstates, ha, hfailed, hfirst, rfl⟩
    rw [hmessage]
    exact Decides.failed hstates ha hfailed hfirst

theorem decides_success_iff {message : Option String} :
    Decides m c .success message ↔ c.verdict m = .success ∧ message = none := by
  rw [verdict_eq_success_iff, Verdict.ofStates_eq_success_iff, allReported_iff]
  constructor
  · intro h
    cases h with
    | finished hmem ha hfinished hreported =>
        have hrelevant := mem_relevant_iff.mpr ⟨hmem, ha⟩
        refine ⟨⟨⟨List.ne_nil_of_mem hrelevant, ?_⟩, hreported⟩, rfl⟩
        intro other hother
        rcases mem_relevant_iff.mp hother with ⟨hmem', hconcerns⟩
        exact hfinished other hmem' hconcerns
  · intro h
    rcases h with ⟨⟨⟨hne, hfinished⟩, hreported⟩, rfl⟩
    rcases List.exists_mem_of_ne_nil _ hne with ⟨a, ha⟩
    rcases mem_relevant_iff.mp ha with ⟨hmem, hconcerns⟩
    refine Decides.finished hmem hconcerns ?_ hreported
    intro other hmem' hconcerns'
    exact hfinished other (mem_relevant_iff.mpr ⟨hmem', hconcerns'⟩)

theorem not_decides_inProgress {message : Option String} :
    ¬ Decides m c .inProgress message := by
  intro h
  cases h

/-- A command is settled as its report decides, if that is a report of its robot. -/
theorem settle?_eq_some_iff {d : Settlement} :
    c.settle? m = some d ↔
      d.command = c ∧ c.device = m.serialNumber ∧ Decides m c d.verdict d.message := by
  rcases d with ⟨command, verdict, message⟩
  unfold settle?
  by_cases hdevice : c.device = m.serialNumber
  · simp only [hdevice, beq_self_eq_true, if_true, true_and]
    cases verdict with
    | inProgress =>
        simp only [not_decides_inProgress, and_false, iff_false]
        cases c.verdict m <;> simp
    | success =>
        rw [decides_success_iff]
        cases c.verdict m <;> simp [eq_comm]
    | failure =>
        rw [decides_failure_iff]
        cases c.verdict m <;> simp [eq_comm]
  · simp [hdevice]

/-- To a command that waits for actions only the states of these matter. -/
theorem settle?_congr {m' : State} (hids : c.actionIds ≠ [])
    (hrobot : m'.serialNumber = m.serialNumber)
    (hstates : m'.actionStates.filter (fun a => a.actionId ∈ c.actionIds) =
      m.actionStates.filter (fun a => a.actionId ∈ c.actionIds)) :
    c.settle? m' = c.settle? m := by
  have hrelevant : ∀ s : State, c.relevant s =
      s.actionStates.filter (fun a => a.actionId ∈ c.actionIds) := by
    intro s
    rw [relevant_eq_filter]
    apply List.filter_congr
    intro a _
    simp [Concerns, hids]
  unfold settle? verdict
  rw [hrelevant m', hrelevant m, hstates, hrobot]

end

end Command

/-!
# One command after the other
-/

/-- Looks at the commands under some keys, one after the other, and takes out what is
decided. -/
def visit (m : State) : List String → Pending → List Settlement × Pending
  | [], p => ([], p)
  | key :: keys, p =>
      match (p.find? key).bind (Command.settle? m) with
      | none => visit m keys p
      | some d =>
          let (settled, rest) := visit m keys (p.erase key)
          (d :: settled, rest)

theorem bind_find?_of_mem {m : State} {p : Pending} {c : Command} (hc : c ∈ p.commands) :
    (p.find? c.key).bind (Command.settle? m) = c.settle? m := by
  rw [find?_eq_some_iff.mpr ⟨hc, rfl⟩, Option.bind_some]

theorem visit_fst (m : State) {keys : List String} (hkeys : keys.Nodup) (p : Pending) :
    (visit m keys p).1 = keys.filterMap (fun key => (p.find? key).bind (Command.settle? m)) := by
  induction keys generalizing p with
  | nil => rfl
  | cons key keys ih =>
      rcases List.nodup_cons.mp hkeys with ⟨hnot, hkeys⟩
      cases hsettle : (p.find? key).bind (Command.settle? m) with
      | none => simp only [visit, hsettle, List.filterMap_cons, ih hkeys]
      | some d =>
          simp only [visit, hsettle, List.filterMap_cons, ih hkeys]
          congr 1
          apply List.filterMap_congr
          intro other hother
          rw [find?_erase_of_ne (ne_of_mem_of_not_mem hother hnot)]

theorem visit_snd (m : State) (keys : List String) (p : Pending) :
    (visit m keys p).2 =
      p.filter (fun c => !(decide (c.key ∈ keys) && (c.settle? m).isSome)) := by
  induction keys generalizing p with
  | nil =>
      apply ext_commands
      exact (List.filter_eq_self.mpr (by simp)).symm
  | cons key keys ih =>
      cases hsettle : (p.find? key).bind (Command.settle? m) with
      | none =>
          simp only [visit, hsettle, ih]
          apply ext_commands
          apply List.filter_congr
          intro c hc
          by_cases hkey : c.key = key
          · subst hkey
            rw [bind_find?_of_mem hc] at hsettle
            simp [hsettle]
          · simp [hkey]
      | some d =>
          simp only [visit, hsettle, ih]
          apply ext_commands
          simp only [erase, filter, List.filter_filter]
          apply List.filter_congr
          intro c hc
          by_cases hkey : c.key = key
          · subst hkey
            rw [bind_find?_of_mem hc] at hsettle
            simp [hsettle]
          · simp [hkey]

/-- The keys of the commands of a robot, which is where a report of it looks. -/
def keysOf (device : String) (p : Pending) : List String :=
  (p.commands.filter (fun c => c.device == device)).map Command.key

theorem nodup_keysOf (device : String) (p : Pending) : (p.keysOf device).Nodup :=
  p.nodup.sublist (List.filter_sublist.map Command.key)

theorem mem_keysOf_iff {device key : String} {p : Pending} :
    key ∈ p.keysOf device ↔ ∃ c ∈ p.commands, c.device = device ∧ c.key = key := by
  simp [keysOf, and_assoc]

theorem filterMap_keysOf (m : State) (p : Pending) :
    (p.keysOf m.serialNumber).filterMap (fun key => (p.find? key).bind (Command.settle? m)) =
      (p.correlate m).1 := by
  simp only [keysOf, correlate, List.filterMap_map, List.filterMap_filter]
  apply List.filterMap_congr
  intro c hc
  simp only [Function.comp_apply, bind_find?_of_mem hc]
  by_cases hdevice : c.device = m.serialNumber
  · simp [hdevice]
  · simp [hdevice, Command.settle?]

/-- In whatever order the commands of the robot are looked at, the same are settled. -/
theorem visit_perm {m : State} {p : Pending} {keys : List String}
    (h : keys.Perm (p.keysOf m.serialNumber)) :
    (visit m keys p).1.Perm (p.correlate m).1 ∧ (visit m keys p).2 = (p.correlate m).2 := by
  have hkeys : keys.Nodup := h.nodup_iff.mpr (nodup_keysOf _ p)
  constructor
  · rw [visit_fst m hkeys, ← filterMap_keysOf]
    exact h.filterMap _
  · rw [visit_snd]
    apply ext_commands
    apply List.filter_congr
    intro c hc
    cases hsettle : c.settle? m with
    | none => simp
    | some d =>
        have hmem : c.key ∈ keys := by
          apply h.mem_iff.mpr
          apply mem_keysOf_iff.mpr
          exact ⟨c, hc, (Command.settle?_eq_some_iff.mp hsettle).2.1, rfl⟩
        simp [hmem]

/-!
# What goes and what stays
-/

structure Correlates (m : State) (p : Pending) (settled : List Settlement) (rest : Pending) :
    Prop where
  decided : ∀ {d : Settlement}, d ∈ settled ↔
    d.command ∈ p.commands ∧ d.command.device = m.serialNumber ∧
      d.command.Decides m d.verdict d.message
  once : (settled.map (fun d => d.command.key)).Nodup
  remaining : ∀ {c}, c ∈ rest.commands ↔
    c ∈ p.commands ∧ ¬ (c.device = m.serialNumber ∧ ∃ verdict message,
      c.Decides m verdict message)
  inPlace : rest.commands.Sublist p.commands
  anyOrder : ∀ {keys : List String}, keys.Perm (p.keysOf m.serialNumber) →
    (visit m keys p).1.Perm settled ∧ (visit m keys p).2 = rest
  trackedOnly : ∀ {m' : State} {c}, c ∈ p.commands → c.actionIds ≠ [] →
    m'.serialNumber = m.serialNumber →
    m'.actionStates.filter (fun a => a.actionId ∈ c.actionIds) =
      m.actionStates.filter (fun a => a.actionId ∈ c.actionIds) →
    (∀ {d : Settlement}, d.command = c → (d ∈ (p.correlate m').1 ↔ d ∈ settled)) ∧
      (c ∈ (p.correlate m').2.commands ↔ c ∈ rest.commands)

theorem mem_remaining_iff {m : State} {p : Pending} {c : Command} :
    c ∈ (p.correlate m).2.commands ↔ c ∈ p.commands ∧ c.settle? m = none := by
  simp only [correlate, filter, List.mem_filter, Option.isNone_iff_eq_none]

theorem correlates (m : State) (p : Pending) :
    Correlates m p (p.correlate m).1 (p.correlate m).2 where
  decided {d} := by
    rw [mem_correlate_iff, Command.settle?_eq_some_iff]
    simp
  once := nodup_correlate m p
  remaining {c} := by
    rw [mem_remaining_iff, Option.eq_none_iff_forall_ne_some]
    refine and_congr_right fun _ => ?_
    constructor
    · intro h hdecides
      rcases hdecides with ⟨hdevice, verdict, message, hdecides⟩
      exact h { command := c, verdict, message }
        (Command.settle?_eq_some_iff.mpr ⟨rfl, hdevice, hdecides⟩)
    · intro h d hsettle
      rcases Command.settle?_eq_some_iff.mp hsettle with ⟨_, hdevice, hdecides⟩
      exact h ⟨hdevice, d.verdict, d.message, hdecides⟩
  inPlace := List.filter_sublist
  anyOrder := visit_perm
  trackedOnly {m' c} hc hids hrobot hstates := by
    have hsettle := Command.settle?_congr hids hrobot hstates
    constructor
    · intro d hd
      rw [mem_correlate_iff, mem_correlate_iff, hd, hsettle]
    · rw [mem_remaining_iff, mem_remaining_iff, hsettle]

/-- One command waits for two actions, one for its order, and one shares an action with
the first. -/
def sharing : Pending :=
  let command (key : String) (actionIds : List String) : Command :=
    { key, device := "agv-01", text := "{}", actionIds, createdAt := .ofNanos 0,
      registered := 0 }
  ((empty.insert (command "order-1" ["pick", "drop"])).insert (command "order-2" [])).insert
    (command "order-3" ["pick"])

/-- The robot has picked, and failed at something that nobody waits for by its id. -/
def liftFailed : State :=
  { headerId := 0, timestamp := none, manufacturer := "acme", serialNumber := "agv-01",
    orderId := "order-2", orderUpdateId := 0, lastNodeId := "n", driving := false,
    paused := false, operatingMode := none,
    actionStates :=
      [ { actionId := "pick", actionType := none, status := .finished,
          resultDescription := none },
        { actionId := "lift", actionType := none, status := .failed,
          resultDescription := some "stuck" } ]
    faults := [] }

theorem correlates_sharing :
    (sharing.correlate liftFailed).1.map (fun d => (d.command.key, d.verdict, d.message)) =
        [("order-2", .failure, some "action lift failed: stuck"), ("order-3", .success, none)] ∧
      (visit liftFailed ["order-3", "order-2", "order-1"] sharing).1.Perm
        (sharing.correlate liftFailed).1 ∧
      (∀ c ∈ sharing.commands, c.key = "order-1" →
        (c ∈ (sharing.correlate { liftFailed with orderId := "order-1" }).2.commands ↔
          c ∈ (sharing.correlate liftFailed).2.commands)) := by
  let elsewhere : State := { liftFailed with orderId := "order-1" }
  have hcorrelates := correlates liftFailed sharing
  refine ⟨by decide +kernel, (hcorrelates.anyOrder (by decide +kernel)).1, ?_⟩
  intro c hc hkey
  have hids : c.actionIds = ["pick", "drop"] := by
    revert c
    decide +kernel
  have hwaits : c.actionIds ≠ [] := by
    rw [hids]
    exact List.cons_ne_nil _ _
  exact (@Correlates.trackedOnly _ _ _ _ hcorrelates elsewhere c hc hwaits rfl rfl).2

end Pending
end FleetBridge
