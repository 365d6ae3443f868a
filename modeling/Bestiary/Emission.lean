import Bestiary.Notice
import Bestiary.Outcome
import Bestiary.Action
/-!
# What creatures announce

Creatures announce to their listeners what they do and what becomes of their resources. Announcements and
notices make one stream, in the order in which things happen.
-/
namespace Bestiary

/-- Something a creature tells its listeners. -/
inductive Announcement where
  | actionAdded (action : Action)
  | actionRemoved (id : String) (action : Action)
  | actionUsed (action : Action) (report : Report)
  | legendaryReset (remaining : Nat)
  | mythicReset (remaining : Nat)
  | villainReset
  | mythicActivated
  | mythicDeactivated
  | paragonAdvanced (phase : Nat)
  | recharged (action : String) (roll : Int)
  deriving Repr

namespace Announcement

/-- The name of the event. -/
def event : Announcement → String
  | .actionAdded _ => "action_added"
  | .actionRemoved .. => "action_removed"
  | .actionUsed .. => "action_used"
  | .legendaryReset _ => "legendary_actions_reset"
  | .mythicReset _ => "mythic_actions_reset"
  | .villainReset => "villain_actions_reset"
  | .mythicActivated => "mythic_phase_activated"
  | .mythicDeactivated => "mythic_phase_deactivated"
  | .paragonAdvanced _ => "paragon_phase_advanced"
  | .recharged .. => "ability_recharged"

/-- The names of all events. -/
def events : List String :=
  ["action_added", "action_removed", "action_used", "legendary_actions_reset", "mythic_actions_reset",
    "villain_actions_reset", "mythic_phase_activated", "mythic_phase_deactivated", "paragon_phase_advanced",
    "ability_recharged"]

theorem event_mem_events (a : Announcement) : a.event ∈ events := by cases a <;> simp [event, events]

/-- The id and the name of an action. -/
def brief (a : Action) : Json := .obj [("id", .str a.id.text), ("name", .str a.name.text)]

/-- What is told about the event. -/
def fields : Announcement → Entries
  | .actionAdded a => [("action_id", .str a.id.text), ("action", brief a)]
  | .actionRemoved id a => [("action_id", .str id), ("action", brief a)]
  | .actionUsed a report =>
    [("action_id", .str a.id.text), ("action", brief a),
      ("result", .obj [("success", .bool report.success), ("effects", .int report.effects.length)])]
  | .legendaryReset remaining | .mythicReset remaining => [("remaining", .int remaining)]
  | .villainReset | .mythicActivated | .mythicDeactivated => []
  | .paragonAdvanced phase => [("phase", .int phase)]
  | .recharged action roll => [("action_id", .str action), ("roll", .int roll)]

end Announcement

/-- A notice, or an announcement of the creature with this id. -/
inductive Emission where
  | note (notice : Notice)
  | announce (creature : String) (announcement : Announcement)
  deriving Repr

namespace Emission

/-- The announcements of a stream, in order. -/
def announcements (stream : List Emission) : List Announcement :=
  stream.filterMap fun
    | .note _ => none
    | .announce _ a => some a

end Emission

end Bestiary
