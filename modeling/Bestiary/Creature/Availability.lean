import Bestiary.Creature
import Bestiary.Encounter
/-!
# Which actions are available

Each economy has its own rule: a pool that holds the cost, a counter below its bound, a phase that has come, a
charged recharge, a reaction whose trigger is met, a bonus action on one's own turn. Lair actions are always
available.
-/
namespace Bestiary.Creature

/-- Whether an action can be used now. -/
def canUse (c : Creature) (a : Action) (e : Encounter) : Bool :=
  match a.economy with
  | .legendary => decide (a.cost ≤ c.legendary)
  | .mythic => c.mythicActive && decide (a.cost ≤ c.mythic)
  | .villain => decide (c.villainUsed < c.villainPerRound)
  | .paragon => decide (0 < c.paragonPhase) && a.phase.all fun p => decide (p.number ≤ c.paragonPhase)
  | .recharge => (c.recharge? a.id.text).any (·.charged)
  | .reaction => !e.reactionUsed && a.trigger.all fun t => t.answers e.trigger
  | .bonus => e.onTurn && !e.bonusUsed
  | .lair => true

/-- The notice of a trigger whose event is unknown to the rules, when it is compared with the same event. -/
def triggerNotices (t : Trigger) (event : Option TriggerEvent) : List Notice :=
  if event.any (fun v => t.kind == v.kind) && t.occasion?.isNone then [.triggerUnknown t.kind] else []

/-- What is reported when it is checked whether an action can be used. -/
def checkNotices (a : Action) (e : Encounter) : List Notice :=
  if a.economy = .reaction && !e.reactionUsed then (a.trigger.map fun t => triggerNotices t e.trigger).getD [] else []

/-- The actions that can be used now, in order. -/
def available (c : Creature) (e : Encounter) : List Action := c.actions.filter fun a => c.canUse a e

end Bestiary.Creature
