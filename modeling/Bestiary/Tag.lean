import Bestiary.Text.Blank
import Bestiary.Text.Lower
import Bestiary.Text.Quoted
/-!
# Closed vocabularies

The rules know fixed sets of words: abilities, the economies that actions draw on, the sides of a fight, the
ways to choose targets, the events that reactions answer, the kinds of effects. Each is a type whose values
have distinct names.
-/
namespace Bestiary

/-- A type whose values are the words of a closed vocabulary. -/
class Tag (α : Type) where
  all : List α
  name : α → String
  /-- A name belongs to one word. -/
  find?_name : ∀ a, all.find? (fun b => name b == name a) = some a

namespace Tag

variable {α : Type} [Tag α]

/-- The word with this name. -/
def ofName? (s : String) : Option α := (Tag.all : List α).find? fun a => Tag.name a == s

/-- The names in their order. -/
def names (α : Type) [Tag α] : List String := (Tag.all : List α).map Tag.name

@[simp] theorem ofName?_name (a : α) : ofName? (Tag.name a) = some a := Tag.find?_name a

end Tag

/-- The abilities a save is rolled with. -/
inductive Ability where
  | strength
  | dexterity
  | constitution
  | intelligence
  | wisdom
  | charisma
  deriving DecidableEq, Repr, Inhabited

namespace Ability

def name : Ability → String
  | .strength => "strength"
  | .dexterity => "dexterity"
  | .constitution => "constitution"
  | .intelligence => "intelligence"
  | .wisdom => "wisdom"
  | .charisma => "charisma"

/-- The first three letters. -/
def abbreviation : Ability → String
  | .strength => "str"
  | .dexterity => "dex"
  | .constitution => "con"
  | .intelligence => "int"
  | .wisdom => "wis"
  | .charisma => "cha"

instance : Tag Ability where
  all := [.strength, .dexterity, .constitution, .intelligence, .wisdom, .charisma]
  name := name
  find?_name a := by cases a <;> rfl

/-- The ability with this name or abbreviation, in any case and with blanks around it. -/
def parse? (s : String) : Option Ability :=
  let wanted := Text.lower (Text.trim s)
  (Tag.all : List Ability).find? fun a => wanted == a.name || wanted == a.abbreviation

/-- The wording of the refusal of a text that names no ability, with its literal. -/
def unknown (literal : String) : String := "Unknown ability: " ++ literal

end Ability

/-- What an action draws on. -/
inductive Economy where
  | legendary
  | mythic
  | lair
  | reaction
  | bonus
  | villain
  | paragon
  | recharge
  deriving DecidableEq, Repr, Inhabited

namespace Economy

/-- The name in documents. -/
def name : Economy → String
  | .legendary => "legendary"
  | .mythic => "mythic"
  | .lair => "lair"
  | .reaction => "reaction"
  | .bonus => "bonus_action"
  | .villain => "villain_action"
  | .paragon => "paragon_action"
  | .recharge => "recharge"

/-- The name for readers. -/
def title : Economy → String
  | .legendary => "Legendary"
  | .mythic => "Mythic"
  | .lair => "Lair"
  | .reaction => "Reaction"
  | .bonus => "Bonus Action"
  | .villain => "Villain Action"
  | .paragon => "Paragon Action"
  | .recharge => "Recharge"

/-- Whether an action's cost is paid from a pool. -/
def usesPool : Economy → Bool
  | .legendary | .mythic => true
  | _ => false

instance : Tag Economy where
  all := [.legendary, .mythic, .lair, .reaction, .bonus, .villain, .paragon, .recharge]
  name := name
  find?_name a := by cases a <;> rfl

end Economy

/-- The sides of a fight. -/
inductive Side where
  | player
  | monster
  | neutral
  deriving DecidableEq, Repr, Inhabited

namespace Side

def name : Side → String
  | .player => "player"
  | .monster => "monster"
  | .neutral => "neutral"

instance : Tag Side where
  all := [.player, .monster, .neutral]
  name := name
  find?_name a := by cases a <;> rfl

end Side

/-- The ways to choose whom an effect applies to. -/
inductive Choice where
  | all
  | players
  | monsters
  /-- Those on the side of the one who acts. -/
  | allies
  | enemies
  | self
  | random
  | area
  | specific
  | selected
  deriving DecidableEq, Repr, Inhabited

namespace Choice

def name : Choice → String
  | .all => "all"
  | .players => "players"
  | .monsters => "monsters"
  | .allies => "allies"
  | .enemies => "enemies"
  | .self => "self"
  | .random => "random"
  | .area => "area"
  | .specific => "specific"
  | .selected => "selected"

instance : Tag Choice where
  all := [.all, .players, .monsters, .allies, .enemies, .self, .random, .area, .specific, .selected]
  name := name
  find?_name a := by cases a <;> rfl

end Choice

/-- The events that the rules know a reaction can answer. -/
inductive Occasion where
  | attacked
  | damaged
  | spellCast
  | movement
  deriving DecidableEq, Repr, Inhabited

namespace Occasion

def name : Occasion → String
  | .attacked => "attacked"
  | .damaged => "damaged"
  | .spellCast => "spell_cast"
  | .movement => "movement"

instance : Tag Occasion where
  all := [.attacked, .damaged, .spellCast, .movement]
  name := name
  find?_name a := by cases a <;> rfl

end Occasion

/-- The kinds of effects. -/
inductive EffectKind where
  | damage
  | healing
  | condition
  | movement
  | summon
  | area
  | save
  | custom
  deriving DecidableEq, Repr, Inhabited

namespace EffectKind

def name : EffectKind → String
  | .damage => "damage"
  | .healing => "healing"
  | .condition => "condition"
  | .movement => "movement"
  | .summon => "summon"
  | .area => "aoe"
  | .save => "save"
  | .custom => "custom"

instance : Tag EffectKind where
  all := [.damage, .healing, .condition, .movement, .summon, .area, .save, .custom]
  name := name
  find?_name a := by cases a <;> rfl

end EffectKind

end Bestiary
