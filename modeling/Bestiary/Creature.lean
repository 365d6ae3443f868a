import Bestiary.Action
import Bestiary.Scribe
import Bestiary.WordSet
/-!
# Creatures

A creature owns actions and what they draw on: pools for legendary and mythic actions, villain actions per
round, paragon phases, and recharges. Reading a creature fills pools that are not given, brings every counter
within its bounds and binds each action that has a threshold to a recharge.
-/
namespace Bestiary

/-- A creature with special actions. -/
structure Creature where
  id : Label
  name : Name 200
  side : Side
  description : String
  actions : List Action
  maxLegendary : Nat
  legendary : Nat
  maxMythic : Nat
  mythic : Nat
  /-- Whether the mythic phase has started. -/
  mythicActive : Bool
  paragonPhases : Nat
  /-- The current paragon phase, zero before the first. -/
  paragonPhase : Nat
  villainPerRound : Nat
  villainUsed : Nat
  /-- The recharges, one for an action. -/
  recharges : List Recharge
  /-- The types of damage that are halved. -/
  resistances : WordSet
  /-- The types of damage that do nothing. -/
  immunities : WordSet
  /-- The types of damage that are doubled. -/
  vulnerabilities : WordSet
  /-- The uses of actions, oldest first. -/
  history : List HistoryEntry
  deriving Repr

namespace Creature

/-- The action with this id. -/
def action? (c : Creature) (id : String) : Option Action := c.actions.find? fun a => a.id.text == id

/-- The recharge of the action with this id. -/
def recharge? (c : Creature) (id : String) : Option Recharge := c.recharges.find? fun r => r.action.text == id

/-- The actions of an economy, in order. -/
def actionsOf (c : Creature) (economy : String) : List Action := c.actions.filter fun a => a.economy.name == economy

/-- The fields of a creature as they are read. -/
structure Given where
  id : Label
  name : Name 200
  side : Side
  description : String
  actions : List Action
  maxLegendary : Nat
  legendary : Option Int
  maxMythic : Nat
  mythic : Option Int
  mythicActive : Bool
  paragonPhases : Nat
  paragonPhase : Nat
  villainPerRound : Nat
  villainUsed : Nat
  recharges : List Recharge
  resistances : WordSet
  immunities : WordSet
  vulnerabilities : WordSet
  history : List HistoryEntry

/-- A number brought within zero and a maximum. -/
def clamp (n : Int) (most : Nat) : Nat := (min n most).toNat

/-- The id of the first recharge whose action has one before it. -/
def firstDuplicate? : List String → List Recharge → Option String
  | _, [] => none
  | seen, r :: rest => if seen.contains r.action.text then some r.action.text else
    firstDuplicate? (r.action.text :: seen) rest

/-- The recharges with a charged one for each action that has a threshold and none yet. -/
def bind (recharges : List Recharge) : List Action → List Recharge
  | [] => recharges
  | a :: rest =>
    match a.recharge with
    | some threshold =>
      if recharges.any fun r => r.action.text == a.id.text then bind recharges rest
      else bind (recharges ++ [⟨a.id, threshold, true⟩]) rest
    | none => bind recharges rest

/-- The creature that the given fields describe. -/
def normalize (g : Given) : Except Issue.Cause Creature :=
  match firstDuplicate? [] g.recharges with
  | some id => .error (.value ("Duplicate recharge ability for action " ++ Text.quoted id))
  | none => .ok
    { id := g.id
      name := g.name
      side := g.side
      description := g.description
      actions := g.actions
      maxLegendary := g.maxLegendary
      legendary := clamp (g.legendary.getD g.maxLegendary) g.maxLegendary
      maxMythic := g.maxMythic
      mythic := clamp (g.mythic.getD (if g.mythicActive then g.maxMythic else 0)) g.maxMythic
      mythicActive := g.mythicActive
      paragonPhases := g.paragonPhases
      paragonPhase := min g.paragonPhase g.paragonPhases
      villainPerRound := g.villainPerRound
      villainUsed := min g.villainUsed g.villainPerRound
      recharges := bind g.recharges g.actions
      resistances := g.resistances
      immunities := g.immunities
      vulnerabilities := g.vulnerabilities
      history := g.history }

/-- The fields of a creature. -/
def keys : List Key :=
  [Field.id, Field.name, Field.kind, Field.description, Field.actions, Field.maxLegendaryActions,
    Field.remainingLegendaryActions, Field.maxMythicActions, Field.remainingMythicActions, Field.mythicPhaseActive,
    Field.paragonPhases, Field.currentParagonPhase, Field.villainActionsPerRound, Field.usedVillainActionsThisRound,
    Field.rechargeAbilities, Field.resistances, Field.immunities, Field.vulnerabilities, Field.actionHistory]

/-- Reads the fields of a creature. -/
def readGiven (e : Entries) : Intake Given :=
  Given.mk <$> Intake.id e
    <*> Intake.required e Field.name (Intake.name 200)
    <*> Intake.field e Field.kind .monster Intake.tag
    <*> Intake.field e Field.description "" Intake.text
    <*> Intake.field e Field.actions [] (Intake.list Action.read)
    <*> Intake.field e Field.maxLegendaryActions 0 Intake.nat
    <*> Intake.optional e Field.remainingLegendaryActions Intake.int
    <*> Intake.field e Field.maxMythicActions 0 Intake.nat
    <*> Intake.optional e Field.remainingMythicActions Intake.int
    <*> Intake.field e Field.mythicPhaseActive false Intake.bool
    <*> Intake.field e Field.paragonPhases 0 Intake.nat
    <*> Intake.field e Field.currentParagonPhase 0 Intake.nat
    <*> Intake.field e Field.villainActionsPerRound 0 Intake.nat
    <*> Intake.field e Field.usedVillainActionsThisRound 0 Intake.nat
    <*> Intake.field e Field.rechargeAbilities [] (Intake.list Recharge.read)
    <*> Intake.field e Field.resistances WordSet.empty WordSet.read
    <*> Intake.field e Field.immunities WordSet.empty WordSet.read
    <*> Intake.field e Field.vulnerabilities WordSet.empty WordSet.read
    <*> Intake.field e Field.actionHistory [] (Intake.list HistoryEntry.read)
    <* Intake.noExtras e keys

def read : Json → Intake Creature :=
  Intake.record "Creature" fun e => Intake.check (readGiven e) normalize

def write (form : Form) (c : Creature) : Json :=
  form.record
    [form.field Field.id (.str c.id.text), form.field Field.name (.str c.name.text),
      form.field Field.kind (.str c.side.name), form.field Field.description (.str c.description),
      form.field Field.actions (.arr (c.actions.map (Action.write form))),
      form.field Field.maxLegendaryActions (.int c.maxLegendary),
      form.field Field.remainingLegendaryActions (.int c.legendary),
      form.field Field.maxMythicActions (.int c.maxMythic), form.field Field.remainingMythicActions (.int c.mythic),
      form.field Field.mythicPhaseActive (.bool c.mythicActive),
      form.field Field.paragonPhases (.int c.paragonPhases), form.field Field.currentParagonPhase (.int c.paragonPhase),
      form.field Field.villainActionsPerRound (.int c.villainPerRound),
      form.field Field.usedVillainActionsThisRound (.int c.villainUsed),
      form.field Field.rechargeAbilities (.arr (c.recharges.map (Recharge.write form))),
      form.field Field.resistances c.resistances.write, form.field Field.immunities c.immunities.write,
      form.field Field.vulnerabilities c.vulnerabilities.write,
      form.field Field.actionHistory (.arr (c.history.map (HistoryEntry.write form)))]

/-- The creature as a document to keep, or why there is none. -/
def dump (dumper : Dumper) (c : Creature) : Except String Json := dumper.dump (c.write .full)

end Creature

end Bestiary
