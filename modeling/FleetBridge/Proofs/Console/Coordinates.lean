import FleetBridge.Console.Session
import FleetBridge.Proofs.Bridge.Issue
import FleetBridge.Proofs.Bridge.Outcome
import FleetBridge.Proofs.Console.Option
import FleetBridge.Proofs.Message.Position

/-!
# Coordinates from the console

What an operator types for a coordinate need not be finite: the words for infinity and for
what is no number are taken as well, and so is a number that is too large.  Such a coordinate
goes out as null.  One that is finite reaches the robot as the number that was read.
-/

namespace FleetBridge
namespace Console

open Message

namespace Command

/-!
# The words of a position
-/

structure Places (words : List String) (device : String) (pose : Pose) : Prop where
  words : ∃ x y theta, words = ["/init", device, x, y, theta, pose.mapId] ∧
    Decimal.nearest? x = some pose.x ∧ Decimal.nearest? y = some pose.y ∧
      Decimal.nearest? theta = some pose.theta
  lastNodeId : pose.lastNodeId = none

theorem exists_of_bind_eq_ok {ε α β : Type} {m : Except ε α} {f : α → Except ε β} {b : β}
    (h : m >>= f = .ok b) : ∃ a, m = .ok a ∧ f a = .ok b := by
  cases m with
  | error e => cases h
  | ok a => exact ⟨a, rfl, h⟩

variable {word device : String} {args : List String} {pose : Pose}
  {via : Option Transport.Kind} {c : Command}

theorem number_eq_ok_iff {argument : String} {x : Float} :
    number argument word = .ok x ↔ Decimal.nearest? word = some x := by
  rw [number]
  cases Decimal.nearest? word with
  | none => simp
  | some y => simp

theorem places_of_ofInitArgs
    (h : ofInitArgs args = .ok (send device (.initPosition pose) via)) :
    Places ("/init" :: args) device pose := by
  unfold ofInitArgs at h
  split at h
  case h_1 device' x y theta mapId =>
    obtain ⟨x', hx, h⟩ := exists_of_bind_eq_ok h
    obtain ⟨y', hy, h⟩ := exists_of_bind_eq_ok h
    obtain ⟨theta', htheta, h⟩ := exists_of_bind_eq_ok h
    cases h
    exact ⟨⟨x, y, theta, rfl, number_eq_ok_iff.mp hx, number_eq_ok_iff.mp hy,
      number_eq_ok_iff.mp htheta⟩, rfl⟩
  case h_2 => cases h

def pose? : Command → Option Pose
  | send _ (.initPosition pose) _ => some pose
  | _ => none

theorem pose?_of_ofOrderArgs (h : ofOrderArgs args = .ok c) : c.pose? = none := by
  unfold ofOrderArgs at h
  split at h
  case h_1 =>
    obtain ⟨ps, _, h⟩ := exists_of_bind_eq_ok h
    cases h
    rfl
  case h_2 => cases h

theorem pose?_of_ofInstantArgs (h : ofInstantArgs args = .ok c) : c.pose? = none := by
  unfold ofInstantArgs at h
  split at h
  case h_1 =>
    obtain ⟨ps, _, h⟩ := exists_of_bind_eq_ok h
    cases h
    rfl
  case h_2 => cases h

theorem pose?_of_ofOrdersArgs (h : ofOrdersArgs args = .ok c) : c.pose? = none := by
  unfold ofOrdersArgs at h
  split at h
  case h_1 =>
    cases h
    rfl
  case h_2 =>
    obtain ⟨limit, _, h⟩ := exists_of_bind_eq_ok h
    cases h
    rfl
  case h_3 =>
    obtain ⟨limit, _, h⟩ := exists_of_bind_eq_ok h
    obtain ⟨offset, _, h⟩ := exists_of_bind_eq_ok h
    cases h
    rfl
  case h_4 => cases h

theorem pose?_of_aboutOrder {make : String → Command} (hmake : ∀ s, (make s).pose? = none)
    (h : aboutOrder word make args = .ok c) : c.pose? = none := by
  unfold aboutOrder at h
  split at h
  case h_1 =>
    cases h
    exact hmake _
  case h_2 => cases h

theorem ofArgs_of_pose? (h : ofArgs word args = .ok c) (hpose : c.pose? ≠ none) :
    word = "/init" ∧ ofInitArgs args = .ok c := by
  -- One case for each command word; the seventh is that of a position.
  unfold ofArgs at h
  split at h
  case h_7 => exact ⟨rfl, h⟩
  case h_4 => exact absurd (pose?_of_ofOrderArgs h) hpose
  case h_5 => exact absurd (pose?_of_ofInstantArgs h) hpose
  case h_13 => exact absurd (pose?_of_ofOrdersArgs h) hpose
  case h_6 | h_11 | h_14 =>
    split at h <;> cases h
    all_goals exact absurd rfl hpose
  case h_8 | h_9 | h_10 | h_12 => exact absurd (pose?_of_aboutOrder (fun _ => rfl) h) hpose
  case h_18 => cases h
  all_goals
    cases h
    exact absurd rfl hpose

theorem exists_of_sentOver {errand : Errand} {v : Option Transport.Kind}
    (h : sentOver word via c = .ok (send device errand v)) :
    via = v ∧ ∃ earlier, c = send device errand earlier := by
  cases c with
  | send device' errand' earlier =>
      cases h
      exact ⟨rfl, earlier, rfl⟩
  | _ =>
      simp only [sentOver] at h
      split at h <;> cases h

theorem ofCut_of_places {words : List String} (h : Places words device pose) :
    ofCut via words = .ok (send device (.initPosition pose) via) := by
  obtain ⟨⟨x, y, theta, rfl, hx, hy, htheta⟩, hnode⟩ := h
  obtain ⟨x', y', theta', mapId, lastNodeId⟩ := pose
  cases hnode
  have hargs : ofArgs "/init" [device, x, y, theta, mapId] =
      .ok (send device (.initPosition ⟨x', y', theta', mapId, none⟩) none) := by
    simp only [ofArgs, ofInitArgs, number_eq_ok_iff.mpr hx, number_eq_ok_iff.mpr hy,
      number_eq_ok_iff.mpr htheta]
    rfl
  rw [ofCut, hargs]
  rfl

theorem ofLine_eq_position_iff {line : String} :
    ofLine line = .ok (send device (.initPosition pose) via) ↔
      ∃ words, cutVia (Text.words line) = .ok (via, words) ∧ Places words device pose := by
  rw [ofLine]
  constructor
  · intro h
    cases hcut : cutVia (Text.words line) with
    | error e =>
        rw [ofWords_of_refused hcut] at h
        cases h
    | ok cut =>
        obtain ⟨v, words⟩ := cut
        rw [ofWords_of_cut hcut] at h
        cases words with
        | nil => cases h
        | cons word args =>
            obtain ⟨c, hargs, hsent⟩ := exists_of_bind_eq_ok h
            obtain ⟨rfl, earlier, rfl⟩ := exists_of_sentOver hsent
            obtain ⟨rfl, hinit⟩ := ofArgs_of_pose? hargs (Option.some_ne_none pose)
            exact ⟨_, rfl, places_of_ofInitArgs hinit⟩
  · rintro ⟨words, hcut, hplaces⟩
    rw [ofWords_of_cut hcut, ofCut_of_places hplaces]

end Command

end Console

namespace Bridge

open Message

variable {now : Time.Moment} {device : String} {via : Option Transport.Kind} {pose : Pose}
  {b b' : Bridge} {t : Ticket} {draft : Record.Draft} {envelope : Envelope}
  {transport : Transport.Kind} {text : Option String}

/-!
# What the robot is sent
-/

theorem payload_issue (h : b.issue now draft envelope transport text = (.ok t, b')) :
    t.payload = envelope.wire := by
  unfold issue at h
  dsimp only at h
  split at h
  case h_1 => cases h
  case h_2 =>
    cases h
    rfl

theorem exists_issue (h : b.store.row? draft.orderId = none) :
    ∃ t b', b.issue now draft envelope transport text = (.ok t, b') := by
  obtain ⟨store, hbegin⟩ := Record.Store.exists_begin h now.instant
  unfold issue
  rw [hbegin]
  exact ⟨_, _, rfl⟩

/-- The id of the next command for which an action id is drawn before. -/
def nextCommandId (b : Bridge) : String :=
  "cmd-" ++ b.uuids.draw.2.draw.1.text

theorem start_initPosition (honline : b.presence.isOnline device = true) :
    b.start now device via (.initPosition pose) =
      (b.buildFor now device (.initPosition pose)).2.issueCommand now device
        (b.buildFor now device (.initPosition pose)).1 (via.getD b.preferred)
        (positionText pose) := by
  simp only [start, honline, if_true]

theorem payload_start_initPosition
    (h : b.start now device via (.initPosition pose) = (.ok t, b')) :
    ∃ r headerId, t.payload = (Envelope.initPosition
      (Request.positioning r pose headerId now.instant b.uuids.draw.1)).wire := by
  cases honline : b.presence.isOnline device with
  | false =>
      simp only [start, honline] at h
      cases h
  | true =>
      rw [start_initPosition honline, issueCommand] at h
      exact ⟨⟨⟨device, b.presence.manufacturer device⟩, .initPosition pose, none⟩,
        (b.headerIds.reserve device).1, payload_issue h⟩

theorem tells_start_initPosition (hnow : now.IsDatable)
    (h : b.start now device via (.initPosition pose) = (.ok t, b')) : Tells t.payload pose := by
  obtain ⟨r, headerId, hpayload⟩ := payload_start_initPosition h
  rw [hpayload]
  exact Request.tells_positioning (Time.Moment.isDatable_instant hnow).isLegible

theorem exists_start_initPosition (honline : b.presence.isOnline device = true)
    (hfree : b.store.row? b.nextCommandId = none) :
    ∃ t b', b.start now device via (.initPosition pose) = (.ok t, b') := by
  rw [start_initPosition honline, issueCommand]
  apply exists_issue
  exact hfree

end Bridge

namespace Console

open Message

/-!
# From the line to the robot
-/

/-- A line that sets a position tells the robot each coordinate that is finite as the number
it was read as, and the map as it was typed; a coordinate that is not finite is lost.  A robot
that is there is told. -/
theorem tells_pose {line device : String} {pose : Pose} {via : Option Transport.Kind}
    (hline : Command.ofLine line = .ok (.send device (.initPosition pose) via))
    {now : Time.Moment} (hnow : now.IsDatable) (b : Bridge) :
    (∃ words, cutVia (Text.words line) = .ok (via, words) ∧ Command.Places words device pose) ∧
      (b.presence.isOnline device = true → b.store.row? b.nextCommandId = none →
        ∃ t b', b.start now device via (commandOf (.initPosition pose) b).1 = (.ok t, b')) ∧
      ∀ t b', b.start now device via (commandOf (.initPosition pose) b).1 = (.ok t, b') →
        Tells t.payload pose :=
  ⟨Command.ofLine_eq_position_iff.mp hline, Bridge.exists_start_initPosition,
    fun _ _ => Bridge.tells_start_initPosition hnow⟩

def joined : Bridge :=
  { Bridge.idle with
    presence := Bridge.idle.presence.setOnline (Bridge.second 1).instant "agv-01" (some "acme") }

def dock : Pose :=
  { x := 1.5, y := -2, theta := 3.14, mapId := "hall-a", lastNodeId := none }

theorem tells_pose_dock :
    ∃ t b', joined.start (Bridge.second 2) "agv-01" none (.initPosition dock) = (.ok t, b') ∧
      ∃ i : InstantActions,
        (InstantActions.codec.parse (Text.glyphs t.payload.toUTF8.toList)).toOption = some i ∧
          (∀ c ∈ dock.coordinates, ∃ v, i.parameter? c.1 = some v ∧ v.Means c.2) ∧
            i.parameter? "mapId" = some (.string "hall-a") := by
  have hline : Command.ofLine "/init agv-01 1.5 -2 3.14 hall-a" =
      .ok (.send "agv-01" (.initPosition dock) none) := by
    refine Command.ofLine_eq_position_iff.mpr
      ⟨["/init", "agv-01", "1.5", "-2", "3.14", "hall-a"], by decide +kernel, ?_⟩
    exact ⟨⟨"1.5", "-2", "3.14", rfl, by decide +kernel, by decide +kernel, by decide +kernel⟩, rfl⟩
  have hback : ∀ x ∈ dock.doubles, Json.ReadsBack x := by
    intro x hx
    simp only [Pose.doubles, dock, List.mem_cons, List.not_mem_nil, or_false] at hx
    rcases hx with rfl | rfl | rfl
    all_goals
      unfold Json.ReadsBack
      decide +kernel
  have hfinite : ∀ c ∈ dock.coordinates, c.2.isFinite = true := by decide +kernel
  obtain ⟨_, hstarts, hsent⟩ :=
    tells_pose hline (by decide : (Bridge.second 2).IsDatable) joined
  obtain ⟨t, b', hstart⟩ := hstarts (by decide +kernel) (by decide +kernel)
  obtain ⟨i, _, hconveys, hread⟩ := hsent t b' hstart
  refine ⟨t, b', hstart, i, hread hback, ?_, hconveys.mapId⟩
  exact fun c hc => (hconveys.means_iff c hc).mpr (hfinite c hc)

def lost : Pose :=
  { x := 0.0 / 0.0, y := 1.0 / 0.0, theta := 0, mapId := "hall-a", lastNodeId := none }

theorem not_means_lost :
    Command.ofLine "/init agv-01 nan inf 0 hall-a" =
        .ok (.send "agv-01" (.initPosition lost) none) ∧
      ∃ t b', joined.start (Bridge.second 2) "agv-01" none (.initPosition lost) = (.ok t, b') ∧
        ∃ i : InstantActions,
          (InstantActions.codec.parse (Text.glyphs t.payload.toUTF8.toList)).toOption = some i ∧
            i.parameter? "x" = some .null ∧ i.parameter? "y" = some .null ∧
              ¬ Json.Value.null.Means lost.x ∧ ¬ Json.Value.null.Means lost.y := by
  have hback : ∀ x ∈ lost.doubles, Json.ReadsBack x := by
    intro x hx
    simp only [Pose.doubles, lost, List.mem_cons, List.not_mem_nil, or_false] at hx
    rcases hx with rfl | rfl | rfl
    all_goals
      unfold Json.ReadsBack
      decide +kernel
  have hx : lost.x.isFinite = false := by decide +kernel
  have hy : lost.y.isFinite = false := by decide +kernel
  have hline : Command.ofLine "/init agv-01 nan inf 0 hall-a" =
      .ok (.send "agv-01" (.initPosition lost) none) := by
    refine Command.ofLine_eq_position_iff.mpr
      ⟨["/init", "agv-01", "nan", "inf", "0", "hall-a"], by decide +kernel, ?_⟩
    exact ⟨⟨"nan", "inf", "0", rfl, by decide +kernel, by decide +kernel, by decide +kernel⟩, rfl⟩
  have hstarts : ∃ t b',
      joined.start (Bridge.second 2) "agv-01" none (.initPosition lost) = (.ok t, b') :=
    Bridge.exists_start_initPosition (by decide +kernel) (by decide +kernel)
  obtain ⟨t, b', hstart⟩ := hstarts
  obtain ⟨i, _, hconveys, hread⟩ := Bridge.tells_start_initPosition (by decide) hstart
  refine ⟨hline, t, b', hstart, i, hread hback, ?_, ?_, Json.Value.not_means_null _,
    Json.Value.not_means_null _⟩
  · exact hconveys.null ("x", lost.x) (by simp [Pose.coordinates]) hx
  · exact hconveys.null ("y", lost.y) (by simp [Pose.coordinates]) hy

end Console
end FleetBridge
