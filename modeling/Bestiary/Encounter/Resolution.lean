import Bestiary.Encounter.Aim
import Bestiary.Encounter.Saving
/-!
# Resolving effects

An action's effects are applied in order. An effect that cannot be applied leaves a failed outcome and the next
one is tried. Areas and saves do nothing by themselves: they aim the effects they nest at those they found and
apply them like any other. Damage is halved at most once, for a save of its own or for one right above it.
-/
namespace Bestiary

namespace Encounter

/-- Half of a duration, rounded up. -/
def halfDuration (d : Nat) : Nat := (d + 1) / 2

/-- The damage that a target takes of an amount. -/
def dealt (n : Int) (half : Bool) (saved : Option Bool) (save : Option Save) : Int :=
  let made := saved == some true
  if made && save.any (·.negate) then 0
  else if half || (made && save.any (·.half)) then n / 2
  else n

/-- Deals an amount of damage to a target. -/
def strikeDamage (n : Int) (kind : Option String) (save : Option Save) (half : Bool) (t : Target) :
    Deed DamageLine := do
  let saved ← Act.ofStep (saveAgainst t save)
  damage t (dealt n half saved save) kind saved

/-- Sets a condition on a target that does not negate it. -/
def strikeCondition (condition : Label) (duration : Option Nat) (save : Option Save) (t : Target) :
    Deed ConditionLine := do
  let saved ← Act.ofStep (saveAgainst t save)
  let made := saved == some true
  if made && save.any (·.negate) then return ⟨t.id, false, none, some true⟩
  else
    let duration := if made && save.any (·.halfDuration) then duration.map halfDuration else duration
    let applied ← setCondition t ⟨condition, duration.map Int.ofNat, none⟩
    return ⟨t.id, applied, duration, saved⟩

/-- Moves a target that does not negate it. -/
def strikeMovement (distance : Nat) (direction : Option String) (save : Option Save) (t : Target) :
    Deed MovementLine := do
  let saved ← Act.ofStep (saveAgainst t save)
  let made := saved == some true
  if made && save.any (·.negate) then return ⟨t.id, true, 0, .null, some true⟩
  else
    let distance := if made && save.any (·.halfDistance) then distance / 2 else distance
    let (success, position) ← move t distance direction
    return ⟨t.id, success, distance, position, saved⟩

def strike (o : Options) (half : Bool) (targeting : Option Targeting) : Impact → Deed Outcome
  | .damage quantity kind save => do
    let ts ← targets o targeting
    let n ← amount quantity
    let lines ← Act.each (strikeDamage n kind save half) ts
    return .damage kind lines
  | .healing quantity => do
    let ts ← targets o targeting
    let n ← amount quantity
    let lines ← Act.each (fun t => heal t n) ts
    return .healing lines
  | .condition condition duration save => do
    let ts ← targets o targeting
    let lines ← Act.each (strikeCondition condition duration save) ts
    return .condition condition.text lines
  | .movement distance direction save => do
    let ts ← targets o targeting
    let lines ← Act.each (strikeMovement distance direction save) ts
    return .movement lines
  | .summon creature count position =>
    if creature = .null then Act.fail .noCreature
    else do
      let came ← Act.each (fun _ => summon creature position) (List.range count)
      return .summon count (came.filterMap (·))
  | .custom payload extras => do
    let dumped ← dump (Effect.writeImpact .full targeting (.custom payload extras))
    return .custom dumped

/-- The outcome of a step, which has failed if the step fails. -/
def guarded (kind : EffectKind) (deed : Deed Outcome) (e : Encounter) : Outcome × Encounter :=
  match deed.run e with
  | (.ok outcome, e) => (outcome, e)
  | (.error .noCreature, e) =>
    (.failed kind Mishap.noCreature.message, note (.effectFailed kind Mishap.noCreature.message) e)
  | (.error mishap, e) => (.failed kind mishap.message, note (.effectRaised kind) e)

/-- What is left of an effect of the failure branch for a target that made the save. -/
def reduce (s : Save) : Effect → Option Impact
  | .impact _ (.damage n kind save) => if s.half then some (.damage n kind save) else none
  | .impact _ (.condition condition duration save) =>
    if s.halfDuration then some (.condition condition (duration.map halfDuration) save) else none
  | .impact _ (.movement distance direction save) =>
    if s.halfDistance then some (.movement (distance / 2) direction save) else none
  | _ => none

/-- What is left of the failure branch for a target that made the save. -/
def reduced (s : Save) (onFailure : List Effect) : List Impact :=
  if s.negate then [] else onFailure.filterMap (reduce s)

/-- The targeting of an effect that is aimed at these ids, or not aimed. -/
def aimed (aim : Option (List String)) (own : Option Targeting) : Option Targeting :=
  match aim with
  | some ids => some (Targeting.specific ids)
  | none => own

/-- Applies impacts in order. -/
def strikeAll (o : Options) (aim : Option (List String)) (half : Bool) :
    List Impact → Encounter → List Outcome × Encounter
  | [], e => ([], e)
  | i :: is, e =>
    let (outcome, e) := guarded i.kind (strike o half (aimed aim none) i) e
    let (rest, e) := strikeAll o aim half is e
    (outcome :: rest, e)

/-- A step for each item in order. -/
def forEach {α β : Type} (step : α → Encounter → β × Encounter) : List α → Encounter → List β × Encounter
  | [], e => ([], e)
  | a :: as, e =>
    let (b, e) := step a e
    let (bs, e) := forEach step as e
    (b :: bs, e)

mutual

/-- Applies an effect, aimed at these ids or as it says itself. -/
def resolve (o : Options) (aim : Option (List String)) (half : Bool) : Effect → Encounter → Outcome × Encounter
  | .impact targeting impact, e => guarded impact.kind (strike o half (aimed aim targeting) impact) e
  | .area _ region effects, e =>
    match (inArea region).run e with
    | (.error mishap, e) => (.failed .area mishap.message, note (.effectRaised .area) e)
    | (.ok found, e) =>
      let ids := (found.getD e.seats).map Target.id
      let (outcomes, e) := resolveAll o (some ids) half effects e
      (.area ids outcomes, e)
  | .save targeting s onSuccess onFailure, e =>
    match (targets o (aimed aim targeting)).run e with
    | (.error mishap, e) => (.failed .save mishap.message, note (.effectRaised .save) e)
    | (.ok found, e) =>
      let (branches, e) := forEach (fun (t : Target) (e : Encounter) =>
        let (roll, e) := rollSave t.combatant s e.rule e
        let saved := roll.any (·.saved)
        let aim := some [t.id]
        let (outcomes, e) :=
          if !saved then resolveAll o aim half onFailure e
          else if onSuccess.isEmpty then strikeAll o aim true (reduced s onFailure) e
          else resolveAll o aim half onSuccess e
        ((SaveLine.mk t.id saved roll, outcomes), e)) found e
      (.save branches, e)

/-- Applies effects in order. -/
def resolveAll (o : Options) (aim : Option (List String)) (half : Bool) :
    List Effect → Encounter → List Outcome × Encounter
  | [], e => ([], e)
  | effect :: effects, e =>
    let (outcome, e) := resolve o aim half effect e
    let (rest, e) := resolveAll o aim half effects e
    (outcome :: rest, e)

end

def perform (o : Options) (a : Action) (e : Encounter) : Report × Encounter :=
  let (outcomes, e) := resolveAll o none false a.effects e
  let report := Report.mk a.id.text outcomes
  (report, note (.actionApplied a.id.text a.economy outcomes.length report.success) e)

end Encounter

end Bestiary
