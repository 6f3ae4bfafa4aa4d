import FleetBridge.Proofs.Message.Heading
import FleetBridge.Proofs.Message.Position

/-!
# What an envelope takes over from a request

The robot, its maker and what it is to be told all come from the request.  An action that the
bridge makes up stands alone and says what was asked for.
-/

namespace FleetBridge
namespace Message

open Json

namespace Envelope

/-- Whether an envelope tells what a request is about. -/
def Carries : Envelope → Content → Prop
  | order o, .order orderId orderUpdateId graph =>
      o.orderId = orderId ∧ o.orderUpdateId = orderUpdateId ∧ o.graph = graph
  | instantActions i, .instantActions actions => i.actions = actions
  | factsheetRequest i, .factsheet =>
      ∃ a, i.actions = [a] ∧ a.actionType = "factsheetRequest" ∧ a.blocking = .none ∧
        a.parameters = []
  | initPosition i, .initPosition pose =>
      ∃ a, i.actions = [a] ∧ a.actionType = "initPosition" ∧ a.blocking = .hard ∧
        i.Conveys pose ∧ a.parameter? "lastNodeId" = pose.lastNodeId.map .string
  | _, _ => False

end Envelope

namespace Action

theorem lastNodeId_setPosition (u : Uuid) (pose : Pose) :
    (setPosition u pose).parameter? "lastNodeId" = pose.lastNodeId.map .string := by
  obtain ⟨x, y, theta, mapId, lastNodeId⟩ := pose
  cases lastNodeId <;> rfl

end Action

namespace Request

variable (r : Request) (headerId : UInt64) (now : Time.Instant) (uuids : Uuid.Supply)

theorem heading_envelope :
    (r.envelope headerId now uuids).1.heading =
      { headerId
        timestamp := now
        version := "2.0.0"
        manufacturer := r.address.manufacturer
        serialNumber := r.address.device } := by
  obtain ⟨address, content, headerId?⟩ := r
  cases content <;> rfl

theorem headerId_envelope : (r.envelope headerId now uuids).1.headerId = headerId := by
  rw [← Envelope.headerId_heading, heading_envelope]

theorem serialNumber_envelope :
    (r.envelope headerId now uuids).1.serialNumber = r.address.device := by
  rw [← Envelope.serialNumber_heading, heading_envelope]

theorem carries_envelope : (r.envelope headerId now uuids).1.Carries r.content := by
  obtain ⟨address, content, headerId?⟩ := r
  cases content with
  | order orderId orderUpdateId graph => exact ⟨rfl, rfl, rfl⟩
  | instantActions actions => exact rfl
  | factsheet => exact ⟨_, rfl, rfl, rfl, rfl⟩
  | initPosition pose =>
      exact ⟨_, rfl, rfl, rfl, conveys_positioning,
        Action.lastNodeId_setPosition uuids.draw.1 pose⟩

end Request
end Message
end FleetBridge
