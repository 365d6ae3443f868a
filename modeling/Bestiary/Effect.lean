import Bestiary.Save
import Bestiary.Targeting
/-!
# Effects

An action is a list of effects. Most effects are impacts: they deal damage, heal, set a condition, move,
summon, or leave something to the table. The others nest effects: an area applies them to whoever is in it,
and a save applies one of two branches to each of its targets.
-/
namespace Bestiary

/-- An amount of damage or healing. -/
inductive Quantity where
  | fixed (n : Int)
  | rolled (text : String)
  deriving DecidableEq, Repr

/-- The fields of a custom effect. -/
def customKeys : List Key := [Field.targets, Field.kind, Field.payload]

/-- What an effect does to those it applies to. -/
inductive Impact where
  /-- Deals damage; targets may save against it. -/
  | damage (amount : Quantity) (kind : Option String) (save : Option Save)
  | healing (amount : Quantity)
  /-- Sets a condition for some rounds or for good; targets may save against it. -/
  | condition (condition : Label) (duration : Option Nat) (save : Option Save)
  /-- Moves targets; they may save against it. -/
  | movement (distance : Nat) (direction : Option String) (save : Option Save)
  | summon (creature : Json) (count : Nat) (position : Json)
  /-- Something the rules do not interpret. -/
  | custom (payload : Extras []) (extras : Extras customKeys)
  deriving DecidableEq, Repr

namespace Impact

/-- The kind of an impact. -/
def kind : Impact → EffectKind
  | .damage .. => .damage
  | .healing _ => .healing
  | .condition .. => .condition
  | .movement .. => .movement
  | .summon .. => .summon
  | .custom .. => .custom

end Impact

inductive Effect where
  | impact (targets : Option Targeting) (impact : Impact)
  /-- Applies effects to whoever is in an area. -/
  | area (targets : Option Targeting) (area : Option Area) (effects : List Effect)
  /-- Lets each target roll a save and applies one of two branches to it. -/
  | save (targets : Option Targeting) (save : Save) (onSuccess onFailure : List Effect)
  deriving Repr

namespace Effect

instance : Inhabited Effect := ⟨.area none none []⟩

/-- The kind of an effect. -/
def kind : Effect → EffectKind
  | .impact _ i => i.kind
  | .area .. => .area
  | .save .. => .save

/-- Whom an effect applies to. -/
def targets : Effect → Option Targeting
  | .impact targets _ | .area targets _ _ | .save targets _ _ _ => targets

end Effect

end Bestiary
