import Bestiary.Effect.Document
/-!
# Outcomes

Applying an effect answers an outcome: what happened to each target, in order, or why nothing did. Outcomes of
areas and saves nest the outcomes of their effects. Whether an outcome is a success is read off it: failures
below are failures above.
-/
namespace Bestiary

/-- Which dice of a save counted. -/
inductive RollKind where
  | normal
  | advantage
  | disadvantage
  deriving DecidableEq, Repr

/-- The name of a way to roll. -/
def RollKind.name : RollKind → String
  | .normal => "normal"
  | .advantage => "advantage"
  | .disadvantage => "disadvantage"

structure SaveRoll where
  /-- The ability it was rolled with. -/
  ability : Ability
  dc : Int
  rolls : List Int
  natural : Int
  bonus : Int
  kind : RollKind
  saved : Bool
  deriving DecidableEq, Repr

/-- The damage that one target took. -/
structure DamageLine where
  target : String
  damage : Int
  resisted : Bool
  /-- Whether the target is immune to it. -/
  immune : Bool
  /-- Whether the target is vulnerable to it. -/
  vulnerable : Bool
  /-- Whether the target made its save, if it rolled one. -/
  saved : Option Bool
  deriving DecidableEq, Repr

/-- The healing that one target received. -/
structure HealingLine where
  target : String
  healing : Int
  deriving DecidableEq, Repr

/-- What became of a condition on one target. -/
structure ConditionLine where
  target : String
  applied : Bool
  duration : Option Nat
  saved : Option Bool
  deriving DecidableEq, Repr

/-- What became of a movement of one target. -/
structure MovementLine where
  target : String
  /-- Whether the target was moved or saved itself from it. -/
  success : Bool
  distance : Nat
  position : Json
  saved : Option Bool
  deriving DecidableEq, Repr

/-- The save of one target. -/
structure SaveLine where
  target : String
  saved : Bool
  /-- The roll, if there was one. -/
  roll : Option SaveRoll
  deriving DecidableEq, Repr

/-- What came of an effect. -/
inductive Outcome where
  | failed (kind : EffectKind) (error : String)
  | damage (kind : Option String) (lines : List DamageLine)
  | healing (lines : List HealingLine)
  | condition (condition : String) (lines : List ConditionLine)
  | movement (lines : List MovementLine)
  /-- So many summons that were asked for, and the creatures that came. -/
  | summon (requested : Nat) (summoned : List Json)
  /-- The combatants in an area, and what came of its effects. -/
  | area (targets : List String) (effects : List Outcome)
  /-- The save of each target, and what came of the branch applied to it. -/
  | save (branches : List (SaveLine × List Outcome))
  /-- What is left to the table. -/
  | custom (payload : Json)
  deriving Repr

namespace Outcome

/-- The kind of the effect. -/
def kind : Outcome → EffectKind
  | .failed kind _ => kind
  | .damage .. => .damage
  | .healing _ => .healing
  | .condition .. => .condition
  | .movement _ => .movement
  | .summon .. => .summon
  | .area .. => .area
  | .save _ => .save
  | .custom _ => .custom

mutual

/-- Whether the effect and all the effects it nests succeeded. -/
def success : Outcome → Bool
  | .failed _ _ => false
  | .damage _ _ | .healing _ | .custom _ => true
  | .condition _ lines => lines.all fun l => l.applied || l.saved == some true
  | .movement lines => lines.all fun l => l.success
  | .summon requested summoned => !summoned.isEmpty || requested == 0
  | .area _ effects => allSucceed effects
  | .save branches => branchesSucceed branches

/-- Whether all outcomes are successes. -/
def allSucceed : List Outcome → Bool
  | [] => true
  | o :: os => success o && allSucceed os

/-- Whether the outcomes of all branches are successes. -/
def branchesSucceed : List (SaveLine × List Outcome) → Bool
  | [] => true
  | (_, os) :: rest => allSucceed os && branchesSucceed rest

end

/-- Why the effect did not succeed, if it says so itself. -/
def error? : Outcome → Option String
  | .failed _ error => some error
  | .movement lines =>
    let left := lines.filter fun l => !l.success
    if left.isEmpty then none else some ("Movement failed for: " ++ ", ".intercalate (left.map (·.target)))
  | _ => none

mutual

/-- The damage of an outcome and of the effects that areas nest. -/
def totalDamage : Outcome → Int
  | .damage _ lines => (lines.map (·.damage)).sum
  | .area _ effects => damageOfAll effects
  | _ => 0

/-- The damage of all outcomes. -/
def damageOfAll : List Outcome → Int
  | [] => 0
  | o :: os => totalDamage o + damageOfAll os

end

end Outcome

namespace SaveRoll

/-- The die that counted with the bonus. -/
def total (r : SaveRoll) : Int := r.natural + r.bonus

/-- The document of a rolled save. -/
def toJson (r : SaveRoll) : Json :=
  .obj [("ability", .str r.ability.name), ("dc", .int r.dc), ("rolls", .arr (r.rolls.map .int)),
    ("natural", .int r.natural), ("bonus", .int r.bonus), ("roll_type", .str r.kind.name), ("saved", .bool r.saved),
    ("total", .int r.total)]

end SaveRoll

namespace Outcome

/-- The document of the damage to one target. -/
def damageLine (l : DamageLine) : Json :=
  .obj [("target_id", .str l.target), ("damage", .int l.damage), ("resistance_applied", .bool l.resisted),
    ("immunity_applied", .bool l.immune), ("vulnerability_applied", .bool l.vulnerable),
    ("saved", Json.ofBool? l.saved)]

/-- The document of a condition on one target. -/
def conditionLine (l : ConditionLine) : Json :=
  .obj [("target_id", .str l.target), ("applied", .bool l.applied), ("duration", Json.ofNat? l.duration),
    ("saved", Json.ofBool? l.saved)]

/-- The document of a movement of one target. -/
def movementLine (l : MovementLine) : Json :=
  .obj [("target_id", .str l.target), ("success", .bool l.success), ("distance", .int l.distance),
    ("new_position", l.position), ("saved", Json.ofBool? l.saved)]

/-- What every document of an outcome starts with. -/
def head (o : Outcome) : Entries :=
  [("type", .str o.kind.name), ("success", .bool o.success), ("error", Json.ofText? o.error?)]

mutual

/-- The document of an outcome. -/
def toJson (o : Outcome) : Json :=
  match o with
  | .failed kind error => .obj [("type", .str kind.name), ("success", .bool false), ("error", .str error)]
  | .damage kind lines =>
    .obj (head (.damage kind lines) ++ [("damage_type", Json.ofText? kind), ("targets", .arr (lines.map damageLine)),
      ("total_damage", .int (totalDamage (.damage kind lines)))])
  | .healing lines =>
    .obj (head (.healing lines) ++
      [("targets", .arr (lines.map fun l => .obj [("target_id", .str l.target), ("healing", .int l.healing)])),
        ("total_healing", .int (lines.map (·.healing)).sum)])
  | .condition name lines =>
    .obj (head (.condition name lines) ++ [("condition", .str name), ("targets", .arr (lines.map conditionLine))])
  | .movement lines => .obj (head (.movement lines) ++ [("targets", .arr (lines.map movementLine))])
  | .summon requested summoned =>
    .obj (head (.summon requested summoned) ++ [("requested", .int requested), ("summoned", .arr summoned)])
  | .area targets effects =>
    .obj (head (.area targets effects) ++ [("target_ids", Json.texts targets), ("effects", .arr (toJsonAll effects)),
      ("total_damage", .int (totalDamage (.area targets effects)))])
  | .save branches => .obj (head (.save branches) ++ [("targets", .arr (branchesToJson branches))])
  | .custom payload => .obj (head (.custom payload) ++ [("payload", payload)])

/-- The documents of outcomes. -/
def toJsonAll : List Outcome → List Json
  | [] => []
  | o :: os => toJson o :: toJsonAll os

/-- The documents of branches. -/
def branchesToJson : List (SaveLine × List Outcome) → List Json
  | [] => []
  | (line, os) :: rest =>
    .obj [("target_id", .str line.target), ("saved", .bool line.saved),
      ("roll", (line.roll.map SaveRoll.toJson).getD .null), ("effects", .arr (toJsonAll os))] :: branchesToJson rest

end

end Outcome

/-- What came of an action. -/
structure Report where
  action : String
  /-- What came of its effects, in order. -/
  effects : List Outcome
  deriving Repr

namespace Report

/-- Whether all effects succeeded. -/
def success (r : Report) : Bool := Outcome.allSucceed r.effects

/-- The document of a report. -/
def toJson (r : Report) : Json :=
  .obj [("action_id", .str r.action), ("success", .bool r.success), ("effects", .arr (Outcome.toJsonAll r.effects))]

end Report

end Bestiary
