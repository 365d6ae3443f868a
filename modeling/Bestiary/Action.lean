import Bestiary.Effect.Document
import Bestiary.Trigger
/-!
# Actions

An action draws on an economy and has effects. An action with a recharge threshold is bound to a recharge: once
used, it has to be rolled back. Every use is entered in the creature's history.
-/
namespace Bestiary

/-- A face of a six-sided die. -/
structure Threshold where
  face : Nat
  onDie : 1 ≤ face ∧ face ≤ 6
  deriving DecidableEq, Repr

/-- A number from one on. -/
structure Phase where
  number : Nat
  positive : 1 ≤ number
  deriving DecidableEq, Repr

namespace Intake

/-- The id that is given, or a new one. -/
def id (e : Entries) : Intake Label :=
  made e Field.id (fun s => (.ok ⟨"gen-" ++ toString (s.minted + 1), by simp [String.ext_iff]⟩,
    { s with minted := s.minted + 1 })) label

def threshold (j : Json) : Intake Threshold :=
  check (int j) fun n =>
    if h : 1 ≤ n ∧ n ≤ 6 then .ok ⟨n.toNat, by omega⟩
    else .error (if n < 1 then .greaterThanEqual 1 else .lessThanEqual 6)

def phase (j : Json) : Intake Phase :=
  check (int j) fun n => if h : 1 ≤ n then .ok ⟨n.toNat, by omega⟩ else .error (.greaterThanEqual 1)

end Intake

/-- Something a creature can do. -/
structure Action where
  id : Label
  name : Name 200
  description : String
  economy : Economy
  /-- What it costs, if that is paid from a pool. -/
  cost : Nat
  /-- The event it answers, if it is a reaction. -/
  trigger : Option Trigger
  /-- The least roll that recharges it. -/
  recharge : Option Threshold
  /-- The first paragon phase it is available in. -/
  phase : Option Phase
  effects : List Effect
  deriving Repr

namespace Action

/-- The fields of an action. -/
def keys : List Key :=
  [Field.id, Field.name, Field.description, Field.kind, Field.cost, Field.trigger, Field.recharge, Field.phase,
    Field.effects]

def read : Json → Intake Action :=
  Intake.record "Action" fun e =>
    Action.mk <$> Intake.id e
      <*> Intake.required e Field.name (Intake.name 200)
      <*> Intake.field e Field.description "" Intake.text
      <*> Intake.required e Field.kind Intake.tag
      <*> Intake.field e Field.cost 1 Intake.nat
      <*> Intake.optional e Field.trigger Trigger.read
      <*> Intake.optional e Field.recharge Intake.threshold
      <*> Intake.optional e Field.phase Intake.phase
      <*> Intake.field e Field.effects [] (Intake.list Effect.read)
      <* Intake.noExtras e keys

def write (form : Form) (a : Action) : Json :=
  form.record
    [form.field Field.id (.str a.id.text), form.field Field.name (.str a.name.text),
      form.field Field.description (.str a.description), form.field Field.kind (.str a.economy.name),
      form.field Field.cost (.int a.cost), form.field Field.trigger ((a.trigger.map (Trigger.write form)).getD .null),
      form.field Field.recharge (Json.ofNat? (a.recharge.map (·.face))),
      form.field Field.phase (Json.ofNat? (a.phase.map (·.number))),
      form.field Field.effects (.arr (Effect.writeAll form a.effects))]

end Action

/-- What binds an action to its recharge. -/
structure Recharge where
  action : Label
  threshold : Threshold
  /-- Whether the action can be used. -/
  charged : Bool
  deriving DecidableEq, Repr

namespace Recharge

def usual : Threshold := ⟨5, by decide⟩

/-- The fields of a recharge. -/
def keys : List Key := [Field.actionId, Field.threshold, Field.charged]

def read : Json → Intake Recharge :=
  Intake.record "RechargeAbility" fun e =>
    Recharge.mk <$> Intake.required e Field.actionId Intake.label
      <*> Intake.field e Field.threshold usual Intake.threshold
      <*> Intake.field e Field.charged true Intake.bool
      <* Intake.noExtras e keys

def write (form : Form) (r : Recharge) : Json :=
  form.record
    [form.field Field.actionId (.str r.action.text), form.field Field.threshold (.int r.threshold.face),
      form.field Field.charged (.bool r.charged)]

end Recharge

/-- A use of an action. -/
structure HistoryEntry where
  action : String
  name : String
  economy : Economy
  cost : Int
  /-- The round it was used in. -/
  round : Int
  /-- Whether all of its effects succeeded. -/
  success : Bool
  timestamp : Moment
  deriving DecidableEq, Repr

namespace HistoryEntry

/-- The fields of a history entry. -/
def keys : List Key :=
  [Field.actionId, Field.actionName, Field.actionType, Field.cost, Field.round, Field.success, Field.timestamp]

/-- Reads a history entry. -/
def read : Json → Intake HistoryEntry :=
  Intake.record "ActionHistoryEntry" fun e =>
    HistoryEntry.mk <$> Intake.required e Field.actionId Intake.text
      <*> Intake.required e Field.actionName Intake.text
      <*> Intake.required e Field.actionType Intake.tag
      <*> Intake.field e Field.cost 0 Intake.int
      <*> Intake.field e Field.round 0 Intake.int
      <*> Intake.field e Field.success true Intake.bool
      <*> Intake.made e Field.timestamp Intake.now Intake.moment
      <* Intake.noExtras e keys

/-- Writes a history entry. -/
def write (form : Form) (h : HistoryEntry) : Json :=
  form.record
    [form.field Field.actionId (.str h.action), form.field Field.actionName (.str h.name),
      form.field Field.actionType (.str h.economy.name), form.field Field.cost (.int h.cost),
      form.field Field.round (.int h.round), form.field Field.success (.bool h.success),
      form.field Field.timestamp (.str h.timestamp.text)]

end HistoryEntry

end Bestiary
