import Bestiary.Catalogue
/-!
# The templates that come with the library

Six categories, each with one template.
-/
namespace Bestiary.Catalogue

namespace Defaults

/-- Whom a choice alone describes. -/
def whom (choice : Choice) : Option Targeting := some ⟨choice, 1, [], none⟩

/-- A region of this shape and size. -/
def region (shape : String) (size : Nat) : Option Area := some ⟨some shape, some size, .null, .empty⟩

/-- A save that changes nothing by itself. -/
def against (ability : Ability) (dc : Int) : Save := ⟨some ability, some dc, false, false, false, false, false, false⟩

/-- Damage of a type. -/
def harm (targets : Option Targeting) (amount kind : String) (save : Option Save) : Effect :=
  .impact targets (.damage (.rolled amount) (some kind) save)

def relief (targets : Option Targeting) (amount : String) : Effect := .impact targets (.healing (.rolled amount))

def affliction (targets : Option Targeting) (condition : Label) (duration : Option Nat) (save : Option Save) :
    Effect := .impact targets (.condition condition duration save)

/-- Something the rules do not interpret, with one entry. -/
def special (key : String) (value : Json) : Effect :=
  .impact none (.custom ⟨[(key, value)], by simp, by simp⟩ .empty)

/-- An action that costs one and has no conditions of its own. -/
def action (id : Label) (name : Name 200) (economy : Economy) (description : String) (effects : List Effect) :
    Action := ⟨id, name, description, economy, 1, none, none, none, effects⟩

/-- A reaction to an event. -/
def reaction (id : Label) (name : Name 200) (trigger : Trigger) (description : String) (effects : List Effect) :
    Action := { action id name .reaction description effects with trigger := some trigger }

/-- A dragon with legendary actions, a breath that recharges and a lair. -/
def redDragon : Template where
  id := ⟨"adult_red_dragon", by decide⟩
  name := ⟨"Adult Red Dragon", by decide⟩
  category := "dragon"
  description := "A legendary red dragon with fiery breath and a volcanic lair."
  maxLegendary := some 3
  maxMythic := none
  paragonPhases := none
  villainPerRound := none
  recharges := none
  actions :=
    [action ⟨"detect", by decide⟩ ⟨"Detect", by decide⟩ .legendary
      "The dragon makes a Wisdom (Perception) check." [],
    action ⟨"tail_attack", by decide⟩ ⟨"Tail Attack", by decide⟩ .legendary "The dragon makes a tail attack."
      [harm (whom .selected) "2d8+8" "bludgeoning" none],
    { action ⟨"wing_attack", by decide⟩ ⟨"Wing Attack", by decide⟩ .legendary
        ("The dragon beats its wings. Each creature within 10 feet must " ++
          "succeed on a DC 22 Dexterity saving throw or take bludgeoning damage and be knocked prone.")
        [.area none (region "sphere" 10)
          [.save (whom .enemies) (against .dexterity 22) []
            [harm none "2d6+8" "bludgeoning" none,
              affliction none ⟨"prone", by decide⟩ (some 1) none]]] with cost := 2 },
    { action ⟨"fire_breath", by decide⟩ ⟨"Fire Breath", by decide⟩ .recharge
        "The dragon exhales fire in a 60-foot cone."
        [.area none (region "cone" 60)
          [harm none "18d6" "fire" (some { against .dexterity 21 with half := true })]] with
      recharge := some Recharge.usual },
    action ⟨"magma_eruption", by decide⟩ ⟨"Magma Eruption", by decide⟩ .lair
      "Magma erupts from a point on the ground the dragon can see."
      [harm (some ⟨.random, 2, [], none⟩) "6d6" "fire" (some { against .dexterity 15 with half := true })],
    action ⟨"volcanic_tremor", by decide⟩ ⟨"Volcanic Tremor", by decide⟩ .lair "A tremor shakes the lair."
      [affliction (whom .players) ⟨"prone", by decide⟩ none
        (some { against .dexterity 15 with negate := true })]]

/-- An undead spellcaster with legendary actions and a lair. -/
def lich : Template where
  id := ⟨"lich", by decide⟩
  name := ⟨"Lich", by decide⟩
  category := "undead"
  description := "An undead spellcaster of terrible power."
  maxLegendary := some 3
  maxMythic := none
  paragonPhases := none
  villainPerRound := none
  recharges := none
  actions :=
    [action ⟨"cantrip", by decide⟩ ⟨"Cantrip", by decide⟩ .legendary "The lich casts a cantrip." [],
    { action ⟨"paralyzing_touch", by decide⟩ ⟨"Paralyzing Touch", by decide⟩ .legendary
        "The lich uses its Paralyzing Touch."
        [harm (whom .selected) "3d6" "cold" none,
          .save (whom .selected) (against .constitution 18) []
            [affliction none ⟨"paralyzed", by decide⟩ (some 10) none]] with cost := 2 },
    { action ⟨"frightening_gaze", by decide⟩ ⟨"Frightening Gaze", by decide⟩ .legendary
        "The lich fixes its gaze on one creature it can see."
        [affliction (whom .selected) ⟨"frightened", by decide⟩ (some 10)
          (some { against .wisdom 18 with negate := true })] with cost := 2 },
    { action ⟨"disrupt_life", by decide⟩ ⟨"Disrupt Life", by decide⟩ .legendary
        "Each non-undead creature within 20 feet takes necrotic damage."
        [.area none (region "sphere" 20)
          [harm none "6d6" "necrotic" (some { against .constitution 18 with half := true })]] with cost := 3 },
    action ⟨"grasping_hands", by decide⟩ ⟨"Grasping Hands", by decide⟩ .lair
      "Skeletal hands burst from the ground, grasping at the living."
      [affliction (whom .players) ⟨"restrained", by decide⟩ (some 1)
        (some { against .strength 14 with negate := true })]]

/-- A sphinx with legendary actions and a mythic phase. -/
def sphinx : Template where
  id := ⟨"mythic_sphinx", by decide⟩
  name := ⟨"Mythic Sphinx", by decide⟩
  category := "mythic"
  description := "A guardian sphinx that reveals its mythic nature when first defeated."
  maxLegendary := some 3
  maxMythic := some 2
  paragonPhases := none
  villainPerRound := none
  recharges := none
  actions :=
    [action ⟨"claw_attack", by decide⟩ ⟨"Claw Attack", by decide⟩ .legendary "The sphinx makes one claw attack."
      [harm (whom .selected) "2d10+6" "slashing" none],
    { action ⟨"teleport", by decide⟩ ⟨"Teleport", by decide⟩ .legendary
        "The sphinx magically teleports up to 120 feet." [special "teleport" (.int 120)] with cost := 2 },
    { action ⟨"weaken_time", by decide⟩ ⟨"Weaken Time", by decide⟩ .mythic "Time slows around the sphinx's foes."
        [.save (whom .enemies) (against .wisdom 18) []
          [affliction none ⟨"slowed", by decide⟩ (some 1) none]] with cost := 2 },
    action ⟨"rewind", by decide⟩ ⟨"Rewind", by decide⟩ .mythic
      "The sphinx draws strength from a moment already past." [relief (whom .self) "4d10"]]

/-- A boss with villain actions, a reaction and a bonus action. -/
def warlord : Template where
  id := ⟨"goblin_warlord", by decide⟩
  name := ⟨"Goblin Warlord", by decide⟩
  category := "villain"
  description := "A cunning boss whose villain actions turn the tide once per round."
  maxLegendary := none
  maxMythic := none
  paragonPhases := none
  villainPerRound := some 1
  recharges := none
  actions :=
    [action ⟨"rally_the_horde", by decide⟩ ⟨"Rally the Horde", by decide⟩ .villain
      "Every ally heals and shakes off its fear." [relief (whom .allies) "2d6"],
    action ⟨"call_reinforcements", by decide⟩ ⟨"Call Reinforcements", by decide⟩ .villain
      "Goblins pour in from a side tunnel." [.impact none (.summon (.str "goblin") 3 .null)],
    action ⟨"scatter", by decide⟩ ⟨"Scatter!", by decide⟩ .villain
      "The warlord's traps fling foes across the room."
      [.impact (whom .enemies)
        (.movement 15 (some "away") (some { against .strength 13 with halfDistance := true }))],
    reaction ⟨"redirect_attack", by decide⟩ ⟨"Redirect Attack", by decide⟩
      ⟨Occasion.attacked.name, some 5, none, none, none, .empty⟩
      "When attacked in melee, the warlord swaps places with a goblin." [],
    action ⟨"nimble_escape", by decide⟩ ⟨"Nimble Escape", by decide⟩ .bonus
      "The warlord disengages or hides." []]

/-- A monster with two paragon phases. -/
def owlbear : Template where
  id := ⟨"paragon_owlbear", by decide⟩
  name := ⟨"Paragon Owlbear", by decide⟩
  category := "paragon"
  description := "An owlbear that fights on through multiple paragon phases."
  maxLegendary := none
  maxMythic := none
  paragonPhases := some 2
  villainPerRound := none
  recharges := none
  actions :=
    [{ action ⟨"ferocious_roar", by decide⟩ ⟨"Ferocious Roar", by decide⟩ .paragon
        "The owlbear roars, terrifying nearby foes."
        [affliction (whom .enemies) ⟨"frightened", by decide⟩ (some 2)
          (some { against .wisdom 13 with halfDuration := true })] with phase := some ⟨1, by decide⟩ },
    { action ⟨"savage_rend", by decide⟩ ⟨"Savage Rend", by decide⟩ .paragon
        "The owlbear tears into a foe in a frenzy."
        [harm (whom .selected) "3d8+5" "slashing" none] with phase := some ⟨2, by decide⟩ }]

/-- A demon with an aura, two reactions and an explosion that recharges. -/
def balor : Template where
  id := ⟨"balor", by decide⟩
  name := ⟨"Balor", by decide⟩
  category := "fiend"
  description := "A demon of flame and shadow."
  maxLegendary := none
  maxMythic := none
  paragonPhases := none
  villainPerRound := none
  recharges := none
  actions :=
    [action ⟨"fire_aura", by decide⟩ ⟨"Fire Aura", by decide⟩ .bonus "Creatures near the balor are burned."
      [.area none (region "sphere" 5) [harm none "3d6" "fire" none]],
    reaction ⟨"fiery_retaliation", by decide⟩ ⟨"Fiery Retaliation", by decide⟩
      ⟨Occasion.damaged.name, none, some "cold", none, none, .empty⟩
      "When the balor takes cold damage, it lashes out with flame." [harm (whom .selected) "2d6" "fire" none],
    reaction ⟨"counter_magic", by decide⟩ ⟨"Counter Magic", by decide⟩
      ⟨Occasion.spellCast.name, none, none, some 3, none, .empty⟩
      "The balor disrupts a spell of 3rd level or higher." [special "counterspell" (.bool true)],
    { action ⟨"death_throes", by decide⟩ ⟨"Death Throes", by decide⟩ .recharge
        "The balor explodes when it dies."
        [.area none (region "sphere" 30)
          [harm none "20d6" "fire" (some { against .dexterity 20 with half := true })]] with
      recharge := some ⟨6, by decide⟩ }]

def categories : List Category :=
  [⟨⟨"dragon", by decide⟩, ⟨"Dragons", by decide⟩⟩, ⟨⟨"undead", by decide⟩, ⟨"Undead", by decide⟩⟩,
    ⟨⟨"mythic", by decide⟩, ⟨"Mythic Creatures", by decide⟩⟩, ⟨⟨"villain", by decide⟩, ⟨"Villains", by decide⟩⟩,
    ⟨⟨"paragon", by decide⟩, ⟨"Paragon Monsters", by decide⟩⟩, ⟨⟨"fiend", by decide⟩, ⟨"Fiends", by decide⟩⟩]

def templates : List Template := [redDragon, lich, sphinx, warlord, owlbear, balor]

end Defaults

/-- The catalogue of the templates that come with the library. -/
def defaults : Catalogue := ⟨.ofList Defaults.categories, .ofList Defaults.templates⟩

/-- What is reported when these templates are loaded. -/
def defaultsNotice : Notice := .defaultsLoaded Defaults.templates.length

end Bestiary.Catalogue
