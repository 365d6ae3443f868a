import Bestiary.Json.Literal
import Bestiary.Tag
/-!
# Notices

What the library reports while it works, each with a level. How notices are shown is for the log to decide.
-/
namespace Bestiary

/-- How much a notice matters. -/
inductive Level where
  | debug
  | info
  | warning
  | error
  | critical
  deriving DecidableEq, Repr

namespace Level

/-- The name of a level. -/
def name : Level → String
  | .debug => "debug"
  | .info => "info"
  | .warning => "warning"
  | .error => "error"
  | .critical => "critical"

/-- The word for a level in settings and in records. -/
def word : Level → String
  | .debug => "DEBUG"
  | .info => "INFO"
  | .warning => "WARNING"
  | .error => "ERROR"
  | .critical => "CRITICAL"

/-- The weight of a level. -/
def weight : Level → Nat
  | .debug => 10
  | .info => 20
  | .warning => 30
  | .error => 40
  | .critical => 50

instance : Tag Level where
  all := [.debug, .info, .warning, .error, .critical]
  name := name
  find?_name a := by cases a <;> rfl

/-- The level with this word. -/
def ofWord? (s : String) : Option Level := (Tag.all : List Level).find? fun l => l.word == s

end Level

/-- A report on the work. -/
inductive Notice where
  | rollerReady (seed : Option Int)
  | rolled (text : String) (total : Int)
  | badNotation (text message : String)
  | damaged (target : String) (amount : Int) (kind : Option String)
  | healed (target : String) (amount : Int)
  | conditionSet (target condition : String) (duration : Option Int)
  | notMoved (target : String) (distance : Int)
  | notSummoned (creature : Json)
  | saveRolled (target : String) (ability : Ability) (dc natural bonus : Int) (saved : Bool)
  | saveIncomplete (target : String)
  | rechargeRolled (creature action : String) (roll : Int) (threshold : Nat) (charged : Bool)
  | actionReplaced (creature action : String)
  | actionUnknown (creature action : String)
  | actionNotFound (creature action creatureId : String)
  | actionUnavailable (creature action : String) (economy : Economy)
  | actionApplied (action : String) (economy : Economy) (effects : Nat) (success : Bool)
  | actionUsed (creature action : String) (economy : Economy) (success : Bool)
  | mythicActivated (creature : String)
  | mythicDeactivated (creature : String)
  | paragonAdvanced (creature : String) (phase : Nat)
  | effectFailed (kind : EffectKind) (error : String)
  | effectRaised (kind : EffectKind)
  | triggerUnknown (kind : String)
  | listenerNotCallable
  | listenerFailed (event error : String)
  | defaultsLoaded (count : Nat)
  | templateMissing (template : String)
  | creatureMade (template creature : String)
  | importFailed (error : String)
  | templateSkipped (template : Json) (error : String)
  | templatesImported (count : Nat)
  deriving DecidableEq, Repr

namespace Notice

def level : Notice → Level
  | .rollerReady _ | .rolled .. | .damaged .. | .healed .. | .conditionSet .. | .saveRolled .. | .saveIncomplete _
  | .rechargeRolled .. | .triggerUnknown _ | .defaultsLoaded _ => .debug
  | .actionApplied .. | .actionUsed .. | .mythicActivated _ | .mythicDeactivated _ | .paragonAdvanced ..
  | .creatureMade .. | .templatesImported _ => .info
  | .badNotation .. | .notMoved .. | .notSummoned _ | .actionReplaced .. | .actionUnknown .. | .actionNotFound ..
  | .actionUnavailable .. | .effectFailed .. | .templateMissing _ | .templateSkipped .. => .warning
  | .effectRaised _ | .listenerNotCallable | .listenerFailed .. | .importFailed _ => .error

/-- What a notice says. -/
def title : Notice → String
  | .rollerReady _ => "DiceRoller initialized"
  | .rolled .. => "Dice rolled"
  | .badNotation .. => "Invalid dice notation"
  | .damaged .. => "Damage applied"
  | .healed .. => "Healing applied"
  | .conditionSet .. => "Condition applied"
  | .notMoved .. => "Forced movement is not supported"
  | .notSummoned _ => "Summoning is not supported"
  | .saveRolled .. => "Saving throw rolled"
  | .saveIncomplete _ => "Save missing ability or DC"
  | .rechargeRolled .. => "Recharge rolled"
  | .actionReplaced .. => "Replacing action"
  | .actionUnknown .. => "Cannot remove unknown action"
  | .actionNotFound .. => "Action not found"
  | .actionUnavailable .. => "Action is not available"
  | .actionApplied .. => "Action applied"
  | .actionUsed .. => "Action used"
  | .mythicActivated _ => "Mythic phase activated"
  | .mythicDeactivated _ => "Mythic phase deactivated"
  | .paragonAdvanced .. => "Paragon phase advanced"
  | .effectFailed .. => "Effect failed"
  | .effectRaised _ => "Effect raised"
  | .triggerUnknown _ => "Unknown trigger type"
  | .listenerNotCallable => "Listener is not callable"
  | .listenerFailed .. => "Event handler error"
  | .defaultsLoaded _ => "Default templates loaded"
  | .templateMissing _ => "Template not found"
  | .creatureMade .. => "Creature created from template"
  | .importFailed _ => "Error importing templates"
  | .templateSkipped .. => "Skipping invalid template"
  | .templatesImported _ => "Templates imported"

/-- What a notice tells in particular. -/
def fields : Notice → Entries
  | .rollerReady seed => [("seed", Json.ofInt? seed)]
  | .rolled text total => [("expression", .str text), ("total", .int total)]
  | .badNotation text message => [("expression", .str text), ("error", .str message)]
  | .damaged target amount kind =>
    [("target", .str target), ("amount", .int amount), ("damage_type", Json.ofText? kind)]
  | .healed target amount => [("target", .str target), ("amount", .int amount)]
  | .conditionSet target condition duration =>
    [("target", .str target), ("condition", .str condition), ("duration", Json.ofInt? duration)]
  | .notMoved target distance => [("target", .str target), ("distance", .int distance)]
  | .notSummoned creature => [("creature", .str creature.display)]
  | .saveRolled target ability dc natural bonus saved =>
    [("target", .str target), ("ability", .str ability.name), ("dc", .int dc), ("natural", .int natural),
      ("bonus", .int bonus), ("saved", .bool saved)]
  | .saveIncomplete target => [("target", .str target)]
  | .rechargeRolled creature action roll threshold charged =>
    [("creature", .str creature), ("action", .str action), ("roll", .int roll), ("threshold", .int threshold),
      ("charged", .bool charged)]
  | .actionReplaced creature action | .actionUnknown creature action =>
    [("creature", .str creature), ("action", .str action)]
  | .actionNotFound creature action creatureId =>
    [("creature", .str creature), ("action", .str action), ("creature_id", .str creatureId)]
  | .actionUnavailable creature action economy =>
    [("creature", .str creature), ("action", .str action), ("action_type", .str economy.name)]
  | .actionApplied action economy effects success =>
    [("action", .str action), ("action_type", .str economy.name), ("effects", .int effects), ("success", .bool success)]
  | .actionUsed creature action economy success =>
    [("creature", .str creature), ("action", .str action), ("action_type", .str economy.name),
      ("success", .bool success)]
  | .mythicActivated creature | .mythicDeactivated creature => [("creature", .str creature)]
  | .paragonAdvanced creature phase => [("creature", .str creature), ("phase", .int phase)]
  | .effectFailed kind error => [("effect_type", .str kind.name), ("error", .str error)]
  | .effectRaised kind => [("effect_type", .str kind.name)]
  | .triggerUnknown kind => [("trigger_type", .str kind)]
  | .listenerNotCallable => [("listener", .str "'not callable'")]
  | .listenerFailed event error => [("creature_event", .str event), ("error", .str error)]
  | .defaultsLoaded count | .templatesImported count => [("count", .int count)]
  | .templateMissing template => [("template_id", .str template)]
  | .creatureMade template creature => [("template", .str template), ("creature", .str creature)]
  | .importFailed error => [("error", .str error)]
  | .templateSkipped template error => [("template_id", template), ("error", .str error)]

/-- The document of a notice. -/
def toJson (n : Notice) : Json := .obj (("level", .str n.level.name) :: ("event", .str n.title) :: n.fields)

end Notice

end Bestiary
