import FleetBridge.Clocked
import FleetBridge.Proofs.Keyed
import FleetBridge.Proofs.Message.Request
import Mathlib.Data.List.Range
import Mathlib.Data.List.Induction

/-!
# The numbering of envelopes

Any number of callers number their envelopes by the same counters.  A call takes its header
id in one step and answers in another, and what comes between the two is up to the others: a
run is any sequence of such steps.  Seen from one robot, a run is a run of its counter alone,
whatever is done for other robots and under header ids that callers bring.
-/

namespace FleetBridge
namespace Message
namespace Numbering

/-- What a caller asks for.  One who calls again counts as another caller. -/
inductive Call where
  | next (device : String)
  | build (request : Request)

inductive Answer where
  | number (headerId : UInt64)
  | envelope (e : Envelope)

def Answer.headerId : Answer → UInt64
  | number headerId => headerId
  | envelope e => e.headerId

def Answer.device? : Answer → Option String
  | number _ => none
  | envelope e => some e.serialNumber

namespace Call

def device : Call → String
  | next device => device
  | build request => request.address.device

def given? : Call → Option UInt64
  | next _ => none
  | build request => request.headerId?

def reserves (device : String) (call : Call) : Bool :=
  call.given?.isNone && call.device == device

def take (ids : HeaderIds) : Call → UInt64 × HeaderIds
  | next device => ids.reserve device
  | build request => ids.take request

/-- What is told under a header id, unless the clock cannot be read. -/
def answer (headerId : UInt64) (now : Time.Moment) (uuids : Uuid.Supply) :
    Call → Clocked Answer Uuid.Supply
  | next _ => (some (.number headerId), uuids)
  | build request =>
      let built := request.envelope headerId now.instant uuids
      Clocked.stamped now uuids (.envelope built.1, built.2)

def perform (now : Time.Moment) (ids : HeaderIds) (uuids : Uuid.Supply) :
    Call → Clocked Answer (HeaderIds × Uuid.Supply)
  | next device =>
      let (headerId, ids) := ids.reserve device
      (some (.number headerId), ids, uuids)
  | build request =>
      let (e?, rest) := Clocked.build request now ids uuids
      (e?.map .envelope, rest)

end Call

inductive Step where
  | take (caller : Nat)
  | answer (caller : Nat) (now : Time.Moment)

def Step.caller : Step → Nat
  | take caller => caller
  | answer caller _ => caller

/-- The counters, who has taken which header id, and what has been answered. -/
structure Desk where
  ids : HeaderIds
  uuids : Uuid.Supply
  taken : Keyed Nat UInt64
  answers : Keyed Nat (Option Answer)

namespace Desk

def opened (uuids : Uuid.Supply) : Desk :=
  { ids := .empty, uuids, taken := .empty, answers := .empty }

section

variable (calls : Nat → Call)

/-- A caller takes a header id once, and is answered once after that. -/
def step (s : Desk) : Step → Desk
  | .take n =>
      match s.taken.find? n with
      | some _ => s
      | none =>
          let (headerId, ids) := (calls n).take s.ids
          { s with ids, taken := s.taken.insert n headerId }
  | .answer n now =>
      match s.taken.find? n, s.answers.find? n with
      | some headerId, none =>
          let (a, uuids) := (calls n).answer headerId now s.uuids
          { s with uuids, answers := s.answers.insert n a }
      | _, _ => s

def run (steps : List Step) (s : Desk) : Desk :=
  steps.foldl (step calls) s

def reservations (device : String) (s : Desk) : List (Nat × UInt64) :=
  s.taken.entries.filter (fun e => (calls e.1).reserves device)

end

end Desk

/-!
# The counter of one robot
-/

theorem Call.reserves_iff {device : String} {call : Call} :
    call.reserves device = true ↔ call.given? = none ∧ call.device = device := by
  simp [reserves]

theorem Call.take_of_given {call : Call} {headerId : UInt64} (h : call.given? = some headerId)
    (ids : HeaderIds) : call.take ids = (headerId, ids) := by
  cases call with
  | next device => cases h
  | build request =>
      rw [given?] at h
      simp only [take, HeaderIds.take, h]

theorem Call.take_of_none {call : Call} (h : call.given? = none) (ids : HeaderIds) :
    call.take ids = ids.reserve call.device := by
  cases call with
  | next device => rfl
  | build request =>
      rw [given?] at h
      simp only [take, HeaderIds.take, h, device]

theorem Call.find?_take_of_not {device : String} {call : Call}
    (h : ¬ call.reserves device = true) (ids : HeaderIds) :
    (call.take ids).2.find? device = ids.find? device := by
  cases hgiven : call.given? with
  | some headerId => rw [take_of_given hgiven]
  | none =>
      rw [take_of_none hgiven]
      have hne : device ≠ call.device := by
        intro heq
        exact h (reserves_iff.mpr ⟨hgiven, heq.symm⟩)
      exact Keyed.find?_insert_of_ne hne _ ids

structure Counter where
  last : Option UInt64
  taken : List (Nat × UInt64)

namespace Counter

def empty : Counter :=
  { last := none, taken := [] }

def next (c : Counter) : UInt64 :=
  c.last.getD 0 + 1

/-- A caller takes the next header id, unless it has taken one before. -/
def reserve (c : Counter) (n : Nat) : Counter :=
  if n ∈ c.taken.map Prod.fst then c
  else { last := some c.next, taken := c.taken ++ [(n, c.next)] }

theorem reserve_of_mem {c : Counter} {n : Nat} (h : n ∈ c.taken.map Prod.fst) :
    c.reserve n = c :=
  if_pos h

theorem reserve_of_not_mem {c : Counter} {n : Nat} (h : n ∉ c.taken.map Prod.fst) :
    c.reserve n = { last := some c.next, taken := c.taken ++ [(n, c.next)] } :=
  if_neg h

end Counter

section

variable (calls : Nat → Call) (device : String)

def Step.reserver? : Step → Option Nat
  | take n => if (calls n).reserves device then some n else none
  | answer _ _ => none

def Desk.counter (s : Desk) : Counter :=
  { last := s.ids.find? device, taken := s.reservations calls device }

end

section

variable {calls : Nat → Call} {device : String}

theorem Desk.mem_reservations_iff {s : Desk} {n : Nat} {headerId : UInt64} :
    (n, headerId) ∈ s.reservations calls device ↔
      s.taken.find? n = some headerId ∧ (calls n).reserves device = true := by
  rw [reservations, List.mem_filter, Keyed.mem_entries_iff]

theorem Desk.mem_map_reservations_iff {s : Desk} {n : Nat} :
    n ∈ (s.reservations calls device).map Prod.fst ↔
      s.taken.find? n ≠ none ∧ (calls n).reserves device = true := by
  simp only [List.mem_map, Prod.exists, mem_reservations_iff, exists_and_right, exists_eq_right,
    Option.ne_none_iff_exists']

theorem Desk.ids_step_of_given (s : Desk) {n : Nat} (h : (calls n).given? ≠ none) :
    (s.step calls (.take n)).ids = s.ids := by
  rcases Option.ne_none_iff_exists'.mp h with ⟨headerId, hheaderId⟩
  simp only [step]
  split
  · rfl
  · rw [Call.take_of_given hheaderId]

theorem Desk.not_mem_of_given (s : Desk) {n : Nat} (h : (calls n).given? ≠ none) :
    n ∉ (s.reservations calls device).map Prod.fst := by
  intro hmem
  exact h (Call.reserves_iff.mp (mem_map_reservations_iff.mp hmem).2).1

/-- Seen from one robot, a step either comes to its counter or does nothing. -/
theorem Desk.counter_step (s : Desk) (x : Step) :
    (s.step calls x).counter calls device =
      match x.reserver? calls device with
      | some n => (s.counter calls device).reserve n
      | none => s.counter calls device := by
  cases x with
  | answer n now =>
      simp only [step, Step.reserver?]
      split <;> rfl
  | take n =>
      simp only [step, Step.reserver?]
      cases htaken : s.taken.find? n with
      | some headerId =>
          by_cases h : (calls n).reserves device = true
          · rw [if_pos h]
            refine (Counter.reserve_of_mem ?_).symm
            exact mem_map_reservations_iff.mpr ⟨by simp [htaken], h⟩
          · rw [if_neg h]
      | none =>
          -- A first-time caller stands last among all who took a header id, so the filter for
          -- this robot either appends it or drops it.
          have hentries := Keyed.entries_insert_of_none htaken
          by_cases h : (calls n).reserves device = true
          · have hnot : n ∉ (s.counter calls device).taken.map Prod.fst := by
              intro hmem
              exact (mem_map_reservations_iff.mp hmem).1 htaken
            rcases Call.reserves_iff.mp h with ⟨hgiven, hdevice⟩
            simp only [if_pos h, Counter.reserve_of_not_mem hnot]
            simp only [if_pos h, counter, reservations, hentries, List.filter_append,
              List.filter_cons, List.filter_nil, Call.take_of_none hgiven, hdevice,
              HeaderIds.reserve, Keyed.find?_insert_self, Counter.next]
          · simp only [if_neg h, counter, reservations, hentries, List.filter_append,
              List.filter_cons, List.filter_nil, List.append_nil, Call.find?_take_of_not h]

theorem Desk.counter_run (steps : List Step) (s : Desk) :
    (s.run calls steps).counter calls device =
      (steps.filterMap (Step.reserver? calls device)).foldl Counter.reserve
        (s.counter calls device) := by
  induction steps generalizing s with
  | nil => rfl
  | cons x steps ih =>
      rw [run, List.foldl_cons, ← run, ih, counter_step, List.filterMap_cons]
      cases x.reserver? calls device <;> rfl

/-!
# Counting from one
-/

/-- The header ids that a counter has given out count from one. -/
structure Counter.Counts (c : Counter) : Prop where
  taken : c.taken.map Prod.snd = (List.range' 1 c.taken.length).map UInt64.ofNat
  last : c.last = if c.taken = [] then none else some (UInt64.ofNat c.taken.length)

namespace Counter.Counts

variable {c : Counter}

theorem empty : Counter.empty.Counts :=
  ⟨rfl, rfl⟩

theorem next_eq (h : c.Counts) : c.next = UInt64.ofNat (c.taken.length + 1) := by
  rw [next, h.last, UInt64.ofNat_add]
  by_cases hnil : c.taken = []
  · rw [if_pos hnil, hnil]
    rfl
  · rw [if_neg hnil]
    rfl

theorem reserve (h : c.Counts) (n : Nat) : (c.reserve n).Counts := by
  by_cases hmem : n ∈ c.taken.map Prod.fst
  · rw [reserve_of_mem hmem]
    exact h
  · rw [reserve_of_not_mem hmem, h.next_eq]
    constructor
    · simp [h.taken, List.range'_concat, Nat.add_comm]
    · simp

theorem foldl (h : c.Counts) (ns : List Nat) : (ns.foldl Counter.reserve c).Counts := by
  induction ns generalizing c with
  | nil => exact h
  | cons n ns ih => exact ih (h.reserve n)

theorem toNat_of_getElem? (h : c.Counts) (hlength : c.taken.length < UInt64.size) {k n : Nat}
    {headerId : UInt64} (hk : c.taken[k]? = some (n, headerId)) : headerId.toNat = k + 1 := by
  have hlt : k < c.taken.length := (List.getElem?_eq_some_iff.mp hk).1
  have hid := congrArg (fun l => l[k]?) h.taken
  simp only [List.getElem?_map, hk, Option.map_some, List.getElem?_range' hlt] at hid
  rw [Option.some.inj hid, UInt64.toNat_ofNat_of_lt' (by omega)]
  omega

theorem eq_of_mem (h : c.Counts) (hlength : c.taken.length < UInt64.size) {n m : Nat}
    {headerId : UInt64} (hn : (n, headerId) ∈ c.taken) (hm : (m, headerId) ∈ c.taken) : n = m := by
  rcases List.mem_iff_getElem?.mp hn with ⟨k, hk⟩
  rcases List.mem_iff_getElem?.mp hm with ⟨j, hj⟩
  have hplace : k + 1 = j + 1 :=
    (h.toNat_of_getElem? hlength hk).symm.trans (h.toNat_of_getElem? hlength hj)
  rw [Nat.succ.inj hplace, hj] at hk
  exact congrArg Prod.fst (Option.some.inj hk).symm

theorem map_toNat_last (h : c.Counts) (hlength : c.taken.length < UInt64.size) :
    c.last.map UInt64.toNat = if c.taken = [] then none else some c.taken.length := by
  rw [h.last]
  split
  · rfl
  · exact congrArg some (Nat.mod_eq_of_lt hlength)

end Counter.Counts

theorem Counter.callers_foldl (ns : List Nat) :
    (ns.foldl reserve empty).taken.map Prod.fst = ns.eraseDups := by
  induction ns using List.reverseRecOn with
  | nil => rfl
  | append_singleton ns n ih =>
      rw [List.foldl_append, List.foldl_cons, List.foldl_nil, List.eraseDups_append]
      by_cases h : n ∈ ns
      · have hmem := List.mem_eraseDups.mpr h
        rw [← ih] at hmem
        simp [reserve_of_mem hmem, ih, List.removeAll, h]
      · have hmem : n ∉ (ns.foldl reserve empty).taken.map Prod.fst := by
          rw [ih, List.mem_eraseDups]
          exact h
        simp [reserve_of_not_mem hmem, ih, List.removeAll, h, List.eraseDups_cons]

/-!
# What callers are told
-/

theorem Call.told_of_answer {call : Call} {headerId : UInt64} {now : Time.Moment}
    {uuids : Uuid.Supply} {a : Answer} (h : (call.answer headerId now uuids).1 = some a) :
    a.headerId = headerId ∧ ∀ d ∈ a.device?, d = call.device := by
  cases call with
  | next device =>
      cases h
      exact ⟨rfl, fun d hd => absurd hd (Option.not_mem_none d)⟩
  | build r =>
      rcases Bool.eq_false_or_eq_true now.isReadable with hnow | hnow
      · simp only [answer, Clocked.stamped_of_isReadable hnow] at h
        cases h
        refine ⟨r.headerId_envelope headerId now.instant uuids, ?_⟩
        rintro d ⟨⟩
        exact r.serialNumber_envelope headerId now.instant uuids
      · simp [answer, Clocked.stamped, hnow] at h

theorem Call.exists_answer (call : Call) (headerId : UInt64) {now : Time.Moment}
    (hnow : now.isReadable = true) (uuids : Uuid.Supply) :
    ∃ a, (call.answer headerId now uuids).1 = some a := by
  cases call with
  | next device => exact ⟨_, rfl⟩
  | build r => exact ⟨_, congrArg Prod.fst (Clocked.stamped_of_isReadable hnow _ _)⟩

variable (calls) in
/-- Whoever brings a header id has taken that one, and an answer tells what was taken. -/
structure Desk.Honest (s : Desk) : Prop where
  brought : ∀ {n headerId given}, s.taken.find? n = some headerId →
    (calls n).given? = some given → headerId = given
  told : ∀ {n a?}, s.answers.find? n = some a? → ∃ headerId, s.taken.find? n = some headerId ∧
    ∀ a ∈ a?, a.headerId = headerId ∧ ∀ d ∈ a.device?, d = (calls n).device

theorem Desk.Honest.unanswered {s : Desk} (h : s.Honest calls) {n : Nat}
    (htaken : s.taken.find? n = none) : s.answers.find? n = none := by
  cases hanswers : s.answers.find? n with
  | none => rfl
  | some a? =>
      rcases h.told hanswers with ⟨headerId, hfind, -⟩
      rw [htaken] at hfind
      cases hfind

theorem Desk.Honest.stands {s : Desk} (h : s.Honest calls) {n : Nat} {a : Answer}
    (hanswer : s.answers.find? n = some (some a)) :
    (∀ d ∈ a.device?, d = (calls n).device) ∧
      match (calls n).given? with
      | some given => a.headerId = given
      | none => (n, a.headerId) ∈ s.reservations calls (calls n).device := by
  rcases h.told hanswer with ⟨headerId, htaken, hall⟩
  rcases hall a rfl with ⟨hheaderId, hdevice⟩
  refine ⟨hdevice, ?_⟩
  split
  next given hgiven => exact hheaderId.trans (h.brought htaken hgiven)
  next hgiven =>
    rw [hheaderId]
    exact mem_reservations_iff.mpr ⟨htaken, Call.reserves_iff.mpr ⟨hgiven, rfl⟩⟩

theorem Desk.honest_step {s : Desk} (h : s.Honest calls) (x : Step) :
    (s.step calls x).Honest calls := by
  cases x with
  | take n =>
      simp only [step]
      cases htaken : s.taken.find? n with
      | some headerId => exact h
      | none =>
          constructor
          · intro m headerId given hm hgiven
            by_cases hmn : m = n
            · subst hmn
              rw [Keyed.find?_insert_self, Call.take_of_given hgiven] at hm
              exact (Option.some.inj hm).symm
            · rw [Keyed.find?_insert_of_ne hmn] at hm
              exact h.brought hm hgiven
          · intro m a? hm
            rcases h.told hm with ⟨headerId, hfind, hall⟩
            -- Whoever has an answer took a header id before, and `n` takes its first one.
            have hmn : m ≠ n := by
              rintro rfl
              rw [htaken] at hfind
              cases hfind
            exact ⟨headerId, (Keyed.find?_insert_of_ne hmn _ _).trans hfind, hall⟩
  | answer n now =>
      simp only [step]
      cases htaken : s.taken.find? n with
      | none => exact h
      | some headerId =>
          cases hanswers : s.answers.find? n with
          | some a? => exact h
          | none =>
              refine ⟨h.brought, ?_⟩
              intro m a? hm
              by_cases hmn : m = n
              · subst hmn
                rw [Keyed.find?_insert_self] at hm
                refine ⟨headerId, htaken, ?_⟩
                intro a ha
                exact Call.told_of_answer ((Option.some.inj hm).trans ha)
              · rw [Keyed.find?_insert_of_ne hmn] at hm
                exact h.told hm

theorem Desk.honest_run (uuids : Uuid.Supply) (steps : List Step) :
    ((opened uuids).run calls steps).Honest calls := by
  induction steps using List.reverseRecOn with
  | nil => exact ⟨fun h => (nomatch h), fun h => (nomatch h)⟩
  | append_singleton steps x ih =>
      rw [run, List.foldl_append]
      exact honest_step ih x

theorem Desk.run_perform {s : Desk} {n : Nat} (htaken : s.taken.find? n = none)
    (hanswers : s.answers.find? n = none) (now : Time.Moment) :
    let t := s.run calls [.take n, .answer n now]
    let result := (calls n).perform now s.ids s.uuids
    t.answers.find? n = some result.1 ∧ t.ids = result.2.1 ∧ t.uuids = result.2.2 := by
  simp only [run, List.foldl_cons, List.foldl_nil, step, htaken, hanswers,
    Keyed.find?_insert_self]
  cases calls n with
  | next device => exact ⟨rfl, rfl, rfl⟩
  | build r =>
      rcases Bool.eq_false_or_eq_true now.isReadable with hnow | hnow
      · simp [Call.take, Call.answer, Call.perform, Clocked.build, Request.build,
          Clocked.stamped_of_isReadable hnow]
      · simp [Call.take, Call.answer, Call.perform, Clocked.build, Clocked.stamped, hnow]

theorem Desk.answered_step {s : Desk} {n : Nat} {headerId : UInt64}
    (htaken : s.taken.find? n = some headerId) (hanswers : s.answers.find? n = none)
    {now : Time.Moment} (hnow : now.isReadable = true) :
    ∃ a, (s.step calls (.answer n now)).answers.find? n = some (some a) ∧
      a.headerId = headerId := by
  have hstep : (s.step calls (.answer n now)).answers.find? n =
      some ((calls n).answer headerId now s.uuids).1 := by
    simp only [step, htaken, hanswers, Keyed.find?_insert_self]
  rcases Call.exists_answer (calls n) headerId hnow s.uuids with ⟨a, ha⟩
  exact ⟨a, by rw [hstep, ha], (Call.told_of_answer ha).1⟩

end

/-!
# Runs
-/

structure Desk.Numbers (calls : Nat → Call) (uuids : Uuid.Supply) (steps : List Step)
    (device : String) (s : Desk) : Prop where
  /-- Reservations stand in the order in which they were made. -/
  callers : (s.reservations calls device).map Prod.fst =
    (steps.filterMap (Step.reserver? calls device)).eraseDups
  /-- Counted from one, a reservation yields its place. -/
  counted : ∀ {k n headerId}, (s.reservations calls device)[k]? = some (n, headerId) →
    headerId.toNat = k + 1
  once : ∀ {n m headerId}, (n, headerId) ∈ s.reservations calls device →
    (m, headerId) ∈ s.reservations calls device → n = m
  last : (s.ids.find? device).map UInt64.toNat =
    if s.reservations calls device = [] then none
    else some (s.reservations calls device).length
  /-- Other robots, and callers that bring a header id, might as well stay away. -/
  apart :
    let own := steps.filter (fun x => (calls x.caller).reserves device)
    ((opened uuids).run calls own).reservations calls device = s.reservations calls device ∧
      ((opened uuids).run calls own).ids.find? device = s.ids.find? device
  brought : ∀ {n}, (calls n).given? ≠ none → (s.step calls (.take n)).ids = s.ids ∧
    n ∉ (s.reservations calls device).map Prod.fst
  told : ∀ {n a}, s.answers.find? n = some (some a) →
    (∀ d ∈ a.device?, d = (calls n).device) ∧
      match (calls n).given? with
      | some given => a.headerId = given
      | none => (n, a.headerId) ∈ s.reservations calls (calls n).device
  answered : ∀ {n headerId now}, s.taken.find? n = some headerId →
    s.answers.find? n = none → now.isReadable = true →
    ∃ a, (s.step calls (.answer n now)).answers.find? n = some (some a) ∧ a.headerId = headerId
  /-- Two steps with nothing in between are a call. -/
  whole : ∀ {n}, s.taken.find? n = none → ∀ now,
    let t := s.run calls [.take n, .answer n now]
    let result := (calls n).perform now s.ids s.uuids
    t.answers.find? n = some result.1 ∧ t.ids = result.2.1 ∧ t.uuids = result.2.2

theorem Desk.counter_opened (calls : Nat → Call) (uuids : Uuid.Supply) (steps : List Step)
    (device : String) :
    ((opened uuids).run calls steps).counter calls device =
      (steps.filterMap (Step.reserver? calls device)).foldl Counter.reserve Counter.empty :=
  counter_run steps (opened uuids)

theorem Step.filterMap_reserver? (calls : Nat → Call) (device : String) (steps : List Step) :
    (steps.filter (fun x => (calls x.caller).reserves device)).filterMap
        (reserver? calls device) =
      steps.filterMap (reserver? calls device) := by
  rw [List.filterMap_filter]
  congr 1
  funext x
  cases x with
  | take n => simp only [caller, reserver?]; split <;> rfl
  | answer n now => exact ite_self _

/-- Header ids are given out without a gap, robot by robot. -/
theorem Desk.numbers_run (calls : Nat → Call) (uuids : Uuid.Supply) (steps : List Step)
    (device : String)
    (hfew : (((opened uuids).run calls steps).reservations calls device).length < UInt64.size) :
    Numbers calls uuids steps device ((opened uuids).run calls steps) := by
  have hcounter := counter_opened calls uuids steps device
  have hhonest : ((opened uuids).run calls steps).Honest calls := honest_run uuids steps
  have hcounts : (((opened uuids).run calls steps).counter calls device).Counts := by
    rw [hcounter]
    exact Counter.Counts.empty.foldl _
  refine
    { callers := ?_
      counted := fun hk => hcounts.toNat_of_getElem? hfew hk
      once := fun hn hm => hcounts.eq_of_mem hfew hn hm
      last := hcounts.map_toNat_last hfew
      apart := ?_
      brought := fun hgiven => ⟨ids_step_of_given _ hgiven, not_mem_of_given _ hgiven⟩
      told := fun hanswer => hhonest.stands hanswer
      answered := fun htaken hanswers hnow => answered_step htaken hanswers hnow
      whole := fun htaken => run_perform htaken (hhonest.unanswered htaken) }
  · have hcallers := congrArg (fun c => c.taken.map Prod.fst) hcounter
    exact hcallers.trans (Counter.callers_foldl _)
  · have hown := counter_opened calls uuids
      (steps.filter (fun x => (calls x.caller).reserves device)) device
    rw [Step.filterMap_reserver?, ← hcounter] at hown
    exact ⟨congrArg Counter.taken hown, congrArg Counter.last hown⟩

namespace Desk

/-- Two callers for one robot, one that brings a header id for it, and others for another
robot. -/
def visitors : Nat → Call
  | 0 => .build
      { address := ⟨"agv-01", "acme"⟩
        content := .order "order-1" 0 { nodes := [], edges := [] }
        headerId? := none }
  | 1 => .next "agv-01"
  | 2 => .build { address := ⟨"agv-01", "acme"⟩, content := .factsheet, headerId? := some 900 }
  | _ => .build
      { address := ⟨"agv-02", "acme"⟩, content := .instantActions [], headerId? := none }

def visits : List Step :=
  [.take 1, .take 2, .take 3, .answer 2 ⟨0, 0⟩, .take 0, .answer 3 ⟨0, 0⟩, .answer 0 ⟨0, 0⟩,
    .answer 1 ⟨0, 0⟩]

theorem numbers_run_visits :
    let s := (opened (.ofSeed 0)).run visitors visits
    s.reservations visitors "agv-01" = [(1, 1), (0, 2)] ∧
      s.answers.entries.map (fun e => (e.1, e.2.map Answer.headerId)) =
        [(2, some 900), (3, some 1), (0, some 2), (1, some 1)] ∧
      (s.reservations visitors "agv-01").length < UInt64.size ∧
      Numbers visitors (.ofSeed 0) visits "agv-01" s := by
  have hfew : (((opened (.ofSeed 0)).run visitors visits).reservations visitors
      "agv-01").length < UInt64.size := by
    decide +kernel
  exact ⟨by decide +kernel, by decide +kernel, hfew,
    numbers_run visitors (.ofSeed 0) visits "agv-01" hfew⟩

end Desk
end Numbering
end Message
end FleetBridge
