import Bestiary.Intake.Record
/-!
# Fields

The fields of all records, with both spellings.
-/
namespace Bestiary.Field

def ability : Key := .word "ability"
def abilities : Key := .word "abilities"
def actionHistory : Key := ⟨"actionHistory", "action_history"⟩
def actionId : Key := ⟨"actionId", "action_id"⟩
def actionName : Key := ⟨"actionName", "action_name"⟩
def actionType : Key := ⟨"actionType", "action_type"⟩
def actions : Key := .word "actions"
def advantage : Key := .word "advantage"
def area : Key := .word "area"
def categories : Key := .word "categories"
def category : Key := .word "category"
def charged : Key := .word "charged"
def condition : Key := .word "condition"
def conditions : Key := .word "conditions"
def cost : Key := .word "cost"
def count : Key := .word "count"
def creature : Key := .word "creature"
def currentParagonPhase : Key := ⟨"currentParagonPhase", "current_paragon_phase"⟩
def damage : Key := .word "damage"
def damageType : Key := ⟨"damageType", "damage_type"⟩
def dc : Key := .word "dc"
def description : Key := .word "description"
def direction : Key := .word "direction"
def disadvantage : Key := .word "disadvantage"
def distance : Key := .word "distance"
def duration : Key := .word "duration"
def effects : Key := .word "effects"
def exportDate : Key := ⟨"exportDate", "export_date"⟩
def halfDistanceOnSuccess : Key := ⟨"halfDistanceOnSuccess", "half_distance_on_success"⟩
def halfDurationOnSuccess : Key := ⟨"halfDurationOnSuccess", "half_duration_on_success"⟩
def halfOnSuccess : Key := ⟨"halfOnSuccess", "half_on_success"⟩
def healing : Key := .word "healing"
def hp : Key := .word "hp"
def id : Key := .word "id"
def ids : Key := .word "ids"
def immunities : Key := .word "immunities"
def isConscious : Key := ⟨"isConscious", "is_conscious"⟩
def kind : Key := .word "type"
def maxHp : Key := ⟨"maxHp", "max_hp"⟩
def maxLegendaryActions : Key := ⟨"maxLegendaryActions", "max_legendary_actions"⟩
def maxMythicActions : Key := ⟨"maxMythicActions", "max_mythic_actions"⟩
def minDistance : Key := ⟨"minDistance", "min_distance"⟩
def minLevel : Key := ⟨"minLevel", "min_level"⟩
def mythicPhaseActive : Key := ⟨"mythicPhaseActive", "mythic_phase_active"⟩
def name : Key := .word "name"
def negateOnSuccess : Key := ⟨"negateOnSuccess", "negate_on_success"⟩
def onFailure : Key := ⟨"onFailure", "on_failure"⟩
def onSuccess : Key := ⟨"onSuccess", "on_success"⟩
def origin : Key := .word "origin"
def paragonPhases : Key := ⟨"paragonPhases", "paragon_phases"⟩
def payload : Key := .word "payload"
def phase : Key := .word "phase"
def position : Key := .word "position"
def range : Key := .word "range"
def recharge : Key := .word "recharge"
def rechargeAbilities : Key := ⟨"rechargeAbilities", "recharge_abilities"⟩
def remainingLegendaryActions : Key := ⟨"remainingLegendaryActions", "remaining_legendary_actions"⟩
def remainingMythicActions : Key := ⟨"remainingMythicActions", "remaining_mythic_actions"⟩
def resistances : Key := .word "resistances"
def round : Key := .word "round"
def save : Key := ⟨"savingThrow", "save"⟩
def savingThrows : Key := ⟨"savingThrows", "saving_throws"⟩
def shape : Key := .word "shape"
def size : Key := .word "size"
def source : Key := .word "source"
def sourceId : Key := ⟨"sourceId", "source_id"⟩
def spellLevel : Key := ⟨"spellLevel", "spell_level"⟩
def success : Key := .word "success"
def targets : Key := .word "targets"
def templates : Key := .word "templates"
def threshold : Key := .word "threshold"
def timestamp : Key := .word "timestamp"
def trigger : Key := .word "trigger"
def usedVillainActionsThisRound : Key := ⟨"usedVillainActionsThisRound", "used_villain_actions_this_round"⟩
def version : Key := .word "version"
def villainActionsPerRound : Key := ⟨"villainActionsPerRound", "villain_actions_per_round"⟩
def vulnerabilities : Key := .word "vulnerabilities"

end Bestiary.Field
