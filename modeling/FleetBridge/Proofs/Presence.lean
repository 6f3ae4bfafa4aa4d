import FleetBridge.Presence
import FleetBridge.Proofs.Keyed

/-!
# Who is there

What the observers of presence make of the flag of each robot: a state and a connection
that is online set it, another connection clears it, and a factsheet leaves it as it is.
No robot is touched but the one that is named.
-/

namespace FleetBridge
namespace Presence

open Message

theorem isOnline_setOnline_self (now : Time.Instant) (device : String)
    (manufacturer : Option String) (p : Presence) :
    (p.setOnline now device manufacturer).isOnline device = true := by
  simp only [isOnline, setOnline, Keyed.find?_insert_self]
  rfl

theorem isOnline_setOnline_of_ne {device other : String} (h : other ≠ device)
    (now : Time.Instant) (manufacturer : Option String) (p : Presence) :
    (p.setOnline now device manufacturer).isOnline other = p.isOnline other := by
  simp only [isOnline, setOnline, Keyed.find?_insert_of_ne h]

theorem isOnline_setOnline {p : Presence} {other : String} (h : p.isOnline other = true)
    (now : Time.Instant) (device : String) (manufacturer : Option String) :
    (p.setOnline now device manufacturer).isOnline other = true := by
  by_cases hother : other = device
  · subst hother
    exact isOnline_setOnline_self now other manufacturer p
  · rw [isOnline_setOnline_of_ne hother]
    exact h

theorem isOnline_setOffline_self (now : Time.Instant) (device : String) (p : Presence) :
    (p.setOffline now device).isOnline device = false := by
  unfold setOffline
  cases honline : p.isOnline device with
  | false =>
      rw [if_neg Bool.false_ne_true]
      exact honline
  | true =>
      rw [if_pos rfl]
      simp only [isOnline, Keyed.find?_modify_self]
      cases p.devices.find? device <;> rfl

theorem isOnline_setOffline_of_ne {device other : String} (h : other ≠ device)
    (now : Time.Instant) (p : Presence) :
    (p.setOffline now device).isOnline other = p.isOnline other := by
  unfold setOffline
  split
  · simp only [isOnline, Keyed.find?_modify_of_ne h]
  · rfl

theorem isOnline_observeFactsheet (now : Time.Instant) (device : String)
    (document : Json.Value) (p : Presence) (other : String) :
    (p.observeFactsheet now device document).isOnline other = p.isOnline other := by
  unfold observeFactsheet
  cases makerIn? document with
  | none => rfl
  | some maker =>
      by_cases h : other = device
      · subst h
        simp only [isOnline, Keyed.find?_insert_self]
        cases p.devices.find? other <;> rfl
      · simp only [isOnline, Keyed.find?_insert_of_ne h]

/-!
# Observing the same once more
-/

/-- What is known of a robot apart from when it was last seen. -/
def standing? (device : String) (p : Presence) : Option (Bool × Option String) :=
  (p.devices.find? device).map (fun e => (e.online, e.manufacturer))

theorem isOnline_congr {p q : Presence} {device : String}
    (h : p.standing? device = q.standing? device) : p.isOnline device = q.isOnline device := by
  have hflag : ∀ p : Presence,
      p.isOnline device = ((p.standing? device).map Prod.fst).getD false := by
    intro p
    simp only [isOnline, standing?, Option.map_map]
    rfl
  rw [hflag p, hflag q, h]

theorem manufacturer_congr {p q : Presence} {device : String}
    (h : p.standing? device = q.standing? device) (hfallback : p.fallback = q.fallback) :
    p.manufacturer device = q.manufacturer device := by
  have hmaker : ∀ p : Presence,
      p.manufacturer device = ((p.standing? device).bind Prod.snd).getD p.fallback := by
    intro p
    simp only [manufacturer, standing?]
    cases p.devices.find? device <;> rfl
  rw [hmaker p, hmaker q, h, hfallback]

theorem standing?_setOnline (now later : Time.Instant) (device : String)
    (manufacturer : Option String) (p : Presence) (other : String) :
    (p.setOnline later device manufacturer).standing? other =
      (p.setOnline now device manufacturer).standing? other := by
  by_cases h : other = device
  · subst h
    simp only [standing?, setOnline, Keyed.find?_insert_self]
    rfl
  · simp only [standing?, setOnline, Keyed.find?_insert_of_ne h]

theorem standing?_setOffline (now later : Time.Instant) (device : String) (p : Presence)
    (other : String) :
    (p.setOffline later device).standing? other =
      (p.setOffline now device).standing? other := by
  unfold setOffline
  split
  · by_cases h : other = device
    · subst h
      simp only [standing?, Keyed.find?_modify_self, Option.map_map]
      rfl
    · simp only [standing?, Keyed.find?_modify_of_ne h]
  · rfl

theorem standing?_observeFactsheet (now later : Time.Instant) (device : String)
    (document : Json.Value) (p : Presence) (other : String) :
    (p.observeFactsheet later device document).standing? other =
      (p.observeFactsheet now device document).standing? other := by
  unfold observeFactsheet
  cases makerIn? document with
  | none => rfl
  | some maker =>
      by_cases h : other = device
      · subst h
        simp only [standing?, Keyed.find?_insert_self]
        cases p.devices.find? other <;> rfl
      · simp only [standing?, Keyed.find?_insert_of_ne h]

theorem setOnline_setOnline (now : Time.Instant) (device : String)
    (manufacturer : Option String) (p : Presence) :
    (p.setOnline now device manufacturer).setOnline now device manufacturer =
      p.setOnline now device manufacturer := by
  have hmaker : (manufacturer.bind named?).or
      ((manufacturer.bind named?).or ((p.devices.find? device).bind Entry.manufacturer)) =
        (manufacturer.bind named?).or ((p.devices.find? device).bind Entry.manufacturer) := by
    cases manufacturer.bind named? <;> rfl
  simp only [setOnline, Keyed.find?_insert_self, Option.bind_some, hmaker]
  rw [Keyed.insert_eq_self (Keyed.find?_insert_self _ _ _)]

theorem setOffline_setOffline (now later : Time.Instant) (device : String) (p : Presence) :
    (p.setOffline now device).setOffline later device = p.setOffline now device := by
  have hgone := isOnline_setOffline_self now device p
  rw [setOffline, hgone]
  rfl

theorem observeFactsheet_observeFactsheet (now later : Time.Instant) (device : String)
    (document : Json.Value) (p : Presence) :
    (p.observeFactsheet now device document).observeFactsheet later device document =
      p.observeFactsheet now device document := by
  unfold observeFactsheet
  cases makerIn? document with
  | none => rfl
  | some maker =>
      simp only [Keyed.find?_insert_self, Option.getD_some]
      rw [Keyed.insert_eq_self (Keyed.find?_insert_self _ _ _)]

end Presence
end FleetBridge
