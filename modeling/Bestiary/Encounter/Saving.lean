import Bestiary.Encounter
/-!
# Rolling saves

A save is rolled with one d20, or with two or three if there is advantage or disadvantage. A natural twenty
always succeeds and a natural one always fails; otherwise die and bonus have to meet the difficulty. A save
without an ability or a difficulty fails without a roll.
-/
namespace Bestiary

namespace AdvantageRule

/-- How many dice a save is rolled with. -/
def dice (rule : AdvantageRule) (advantage disadvantage : Bool) : Nat :=
  match advantage, disadvantage, rule with
  | true, true, .cancel => 1
  | true, true, .sequential => 3
  | true, false, _ | false, true, _ => 2
  | false, false, _ => 1

/-- The die that counts among those rolled, and how. -/
def natural (advantage disadvantage : Bool) : List Int → Int × RollKind
  | [a] => (a, .normal)
  | [a, b] => if advantage && !disadvantage then (max a b, .advantage) else (min a b, .disadvantage)
  | [a, b, c] => (min (max a b) c, .disadvantage)
  | _ => (0, .normal)

end AdvantageRule

namespace Save

/-- Whether a die that counts makes a save. -/
def made (natural bonus dc : Int) : Bool :=
  if natural = 20 then true else if natural = 1 then false else decide (dc ≤ natural + bonus)

end Save

namespace Encounter

/-- Rolls a save of a combatant, unless it lacks an ability or a difficulty. -/
def rollSave (c : Combatant) (s : Save) (rule : AdvantageRule) (e : Encounter) : Option SaveRoll × Encounter :=
  match s.ability, s.dc with
  | some ability, some dc =>
    let (rolls, e) := rollDice 20 (rule.dice s.advantage s.disadvantage) e
    let (natural, kind) := AdvantageRule.natural s.advantage s.disadvantage rolls
    let bonus := c.savingThrowBonus ability
    let saved := Save.made natural bonus dc
    (some ⟨ability, dc, rolls, natural, bonus, kind, saved⟩,
      note (.saveRolled c.id ability dc natural bonus saved) e)
  | _, _ => (none, note (.saveIncomplete c.id) e)

/-- Whether a combatant makes a save. -/
def checkSave (c : Combatant) (s : Save) (e : Encounter) : Bool × Encounter :=
  let (roll, e) := rollSave c s e.rule e
  (roll.any (·.saved), e)

/-- Whether a target makes the save of an impact, if there is one. -/
def saveAgainst (t : Target) : Option Save → Encounter → Option Bool × Encounter
  | none, e => (none, e)
  | some s, e =>
    let (saved, e) := checkSave t.combatant s e
    (some saved, e)

end Encounter

end Bestiary
