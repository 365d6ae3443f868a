import Bestiary.Creature.Availability
import Bestiary.Encounter.Resolution
import Bestiary.Fault
/-!
# What a creature does

Everything that changes a creature is a `Command`: using an action, editing the catalogue of actions, resetting
pools, moving through phases, rolling recharges. `run` carries out a command in an encounter. A use that is not
possible changes nothing; a use that is possible is paid for and entered in the history even if its effects
fail.
-/
namespace Bestiary

/-- An action as it is handed to a creature: read already, or as a document. -/
inductive Submission where
  | action (a : Action)
  | document (j : Json)

/-- Something a creature is told to do. -/
inductive Command where
  /-- Uses the action with this id. -/
  | use (id : String) (options : Options)
  /-- Adds an action, or replaces the one with its id. -/
  | addAction (submission : Submission)
  /-- Removes the action with this id. -/
  | removeAction (id : String)
  | resetLegendary
  | resetMythic
  /-- Clears the villain actions of the round. -/
  | resetVillain
  /-- Starts the mythic phase with a full pool. -/
  | activateMythic
  /-- Ends the mythic phase and empties its pool. -/
  | deactivateMythic
  /-- Goes on to the next paragon phase. -/
  | advanceParagon
  /-- Rolls each recharge that is not charged. -/
  | attemptRecharge
  /-- Resets what is per round and rolls recharges. -/
  | startRound

/-- What a command answers. -/
inductive Response where
  | done
  | flag (b : Bool)
  /-- What came of an action, if it could be used. -/
  | report (r : Option Report)
  | added (a : Action)
  | refused (issues : List Issue)
  /-- The ids of the actions that were recharged. -/
  | ids (ids : List String)

namespace Encounter

/-- Announces something of a creature. -/
def announce (c : Creature) (a : Announcement) (e : Encounter) : Encounter :=
  { e with journal := e.journal ++ [.announce c.id.text a] }

def noteAll (ns : List Notice) (e : Encounter) : Encounter := { e with journal := e.journal ++ ns.map .note }

end Encounter

namespace Creature

open Encounter (announce note noteAll)

/-- The actions with one added in the place of the one with its id, or at the end. -/
def upsert (a : Action) : List Action → List Action
  | [] => [a]
  | b :: rest => if b.id = a.id then a :: rest else b :: upsert a rest

/-- The recharges with the threshold of an action, if it has one; a new recharge is charged. -/
def rebind (a : Action) (rs : List Recharge) : List Recharge :=
  match a.recharge with
  | none => rs
  | some threshold => go threshold rs
where
  /-- Sets the threshold of the action's recharge, or adds one. -/
  go (threshold : Threshold) : List Recharge → List Recharge
    | [] => [⟨a.id, threshold, true⟩]
    | r :: rest => if r.action = a.id then { r with threshold := threshold } :: rest else r :: go threshold rest

def addAction (a : Action) (c : Creature) (e : Encounter) : Creature × Encounter :=
  let e := if c.actions.any (fun b => b.id = a.id) then note (.actionReplaced c.name.text a.id.text) e else e
  let c := { c with actions := upsert a c.actions, recharges := rebind a c.recharges }
  (c, announce c (.actionAdded a) e)

/-- Removes the action with this id; whether there was one. -/
def removeAction (id : String) (c : Creature) (e : Encounter) : Bool × Creature × Encounter :=
  match c.action? id with
  | none => (false, c, note (.actionUnknown c.name.text id) e)
  | some a =>
    let c := { c with
      actions := c.actions.eraseP fun b => b.id.text == id
      recharges := c.recharges.filter fun r => r.action.text != id }
    (true, c, announce c (.actionRemoved id a) e)

/-- The recharges after the first one of the action with this id was used up. -/
def discharge (id : String) : List Recharge → List Recharge
  | [] => []
  | r :: rest => if r.action.text = id then { r with charged := false } :: rest else r :: discharge id rest

/-- The creature after an action was paid for. -/
def pay (a : Action) (c : Creature) : Creature :=
  match a.economy with
  | .legendary => { c with legendary := c.legendary - a.cost }
  | .mythic => { c with mythic := c.mythic - a.cost }
  | .villain => { c with villainUsed := min c.villainPerRound (c.villainUsed + 1) }
  | .recharge => { c with recharges := discharge a.id.text c.recharges }
  | _ => c

/-- The encounter after an action was paid for. -/
def spend (a : Action) (e : Encounter) : Encounter :=
  match a.economy with
  | .reaction => { e with reactionUsed := true }
  | .bonus => { e with bonusUsed := true }
  | _ => e

/-- The options with the creature itself as the one who acts, unless they name another. -/
def complete (c : Creature) (o : Options) (e : Encounter) : Options :=
  { o with source := o.source.or (e.seat? c.id.text), sourceSide := o.sourceSide.or (some c.side) }

/-- The history entry of a use. -/
def entry (a : Action) (r : Report) (e : Encounter) : HistoryEntry :=
  ⟨a.id.text, a.name.text, a.economy, a.cost, e.round, r.success, e.clock⟩

/-- Uses an action that can be used. -/
def act (a : Action) (o : Options) (c : Creature) (e : Encounter) : Report × Creature × Encounter :=
  let (report, e) := Encounter.perform (c.complete o e) a e
  let e := spend a e
  let c := { pay a c with history := c.history ++ [entry a report e] }
  let e := note (.actionUsed c.name.text a.id.text a.economy report.success) e
  (report, c, announce c (.actionUsed a report) e)

/-- Uses the action with this id, if there is one and it can be used. -/
def use (id : String) (o : Options) (c : Creature) (e : Encounter) : Option Report × Creature × Encounter :=
  match c.action? id with
  | none => (none, c, note (.actionNotFound c.name.text id c.id.text) e)
  | some a =>
    let e := noteAll (checkNotices a e) e
    if c.canUse a e then
      let (report, c, e) := act a o c e
      (some report, c, e)
    else (none, c, note (.actionUnavailable c.name.text id a.economy) e)

/-- Fills the legendary pool. -/
def resetLegendary (c : Creature) (e : Encounter) : Creature × Encounter :=
  let c := { c with legendary := c.maxLegendary }
  (c, announce c (.legendaryReset c.legendary) e)

/-- Fills the mythic pool. -/
def resetMythic (c : Creature) (e : Encounter) : Creature × Encounter :=
  let c := { c with mythic := c.maxMythic }
  (c, announce c (.mythicReset c.mythic) e)

def resetVillain (c : Creature) (e : Encounter) : Creature × Encounter :=
  let c := { c with villainUsed := 0 }
  (c, announce c .villainReset e)

def activateMythic (c : Creature) (e : Encounter) : Creature × Encounter :=
  let (c, e) := resetMythic { c with mythicActive := true } e
  (c, announce c .mythicActivated (note (.mythicActivated c.name.text) e))

def deactivateMythic (c : Creature) (e : Encounter) : Creature × Encounter :=
  let c := { c with mythicActive := false, mythic := 0 }
  (c, announce c .mythicDeactivated (note (.mythicDeactivated c.name.text) e))

def advanceParagon (c : Creature) (e : Encounter) : Bool × Creature × Encounter :=
  if c.paragonPhases ≤ c.paragonPhase then (false, c, e)
  else
    let c := { c with paragonPhase := c.paragonPhase + 1 }
    (true, c, announce c (.paragonAdvanced c.paragonPhase) (note (.paragonAdvanced c.name.text c.paragonPhase) e))

/-- Rolls each recharge that is not charged; the ids of those that are charged by it. -/
def rollRecharges (c : Creature) : List Recharge → Encounter → List String × List Recharge × Encounter
  | [], e => ([], [], e)
  | r :: rest, e =>
    if r.charged then
      let (ids, rest, e) := rollRecharges c rest e
      (ids, r :: rest, e)
    else
      let (roll, e) := Encounter.rollDie 6 e
      let charged := decide ((r.threshold.face : Int) ≤ roll)
      let e := if charged then announce c (.recharged r.action.text roll) e else e
      let e := note (.rechargeRolled c.name.text r.action.text roll r.threshold.face charged) e
      let (ids, rest, e) := rollRecharges c rest e
      (if charged then r.action.text :: ids else ids, { r with charged := charged } :: rest, e)

def attemptRecharge (c : Creature) (e : Encounter) : List String × Creature × Encounter :=
  let (ids, recharges, e) := rollRecharges c c.recharges e
  (ids, { c with recharges := recharges }, e)

def startRound (c : Creature) (e : Encounter) : List String × Creature × Encounter :=
  let (c, e) := resetLegendary c e
  let (c, e) := resetVillain c e
  attemptRecharge c e

/-- The action that is handed in, or what is wrong with it, and the supply that is left. -/
def accept : Submission → Supply → Except (List Issue) Action × Supply
  | .action a, s => (.ok a, s)
  | .document j, s => (Action.read j).run s

/-- Carries out a command. -/
def run (command : Command) (c : Creature) (e : Encounter) (s : Supply) : Response × Creature × Encounter × Supply :=
  match command with
  | .use id options =>
    let (report, c, e) := c.use id options e
    (.report report, c, e, s)
  | .addAction submission =>
    match accept submission s with
    | (.ok a, s) =>
      let (c, e) := c.addAction a e
      (.added a, c, e, s)
    | (.error issues, s) => (.refused issues, c, e, s)
  | .removeAction id =>
    let (removed, c, e) := c.removeAction id e
    (.flag removed, c, e, s)
  | .resetLegendary =>
    let (c, e) := c.resetLegendary e
    (.done, c, e, s)
  | .resetMythic =>
    let (c, e) := c.resetMythic e
    (.done, c, e, s)
  | .resetVillain =>
    let (c, e) := c.resetVillain e
    (.done, c, e, s)
  | .activateMythic =>
    let (c, e) := c.activateMythic e
    (.done, c, e, s)
  | .deactivateMythic =>
    let (c, e) := c.deactivateMythic e
    (.done, c, e, s)
  | .advanceParagon =>
    let (advanced, c, e) := c.advanceParagon e
    (.flag advanced, c, e, s)
  | .attemptRecharge =>
    let (ids, c, e) := c.attemptRecharge e
    (.ids ids, c, e, s)
  | .startRound =>
    let (ids, c, e) := c.startRound e
    (.ids ids, c, e, s)

end Creature

namespace Fault

/-- The fault of a document that is no action. -/
def invalidAction (issues : List Issue) : Fault :=
  ofIssues ("Invalid action: " ++ toString issues.length ++
    (if issues.length = 1 then " validation error" else " validation errors") ++ " for Action") "action" issues

/-- The fault of a document that is no creature. -/
def invalidCreature (issues : List Issue) : Fault :=
  ofIssues ("Invalid creature data: " ++ toString issues.length ++ " error(s)") "creature" issues

/-- The fault of a document that is no template. -/
def invalidTemplate (issues : List Issue) : Fault :=
  ofIssues ("Invalid template: " ++ toString issues.length ++ " error(s)") "template" issues

/-- The fault of a notation that is refused. -/
def refusedRoll? (refusal : Dice.Refusal) : Option Fault :=
  match refusal with
  | .blank text | .invalid text _ => some (make .dice refusal.message [("expression", .str text)] [])
  | .broken _ => none

end Fault

end Bestiary
