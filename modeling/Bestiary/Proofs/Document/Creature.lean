import Bestiary.Creature
import Bestiary.Proofs.Document.Effect
import Bestiary.Proofs.Document.Moment
/-!
# Creature — a creature that is written is read back

Actions, recharges and history entries are records of what is read back by itself.  So is a creature, but for what
reading does with its fields: it brings counters within their bounds and binds actions to recharges.  A creature that
this does not change is read back as it is, in every form that tells the extra keys in its actions (`reads_form`), in
full always (`reads_write`).
-/
namespace Bestiary

open Intake (Reads)

namespace Intake.Reads

theorem occasion (s : String) : Reads (Intake.occasion (.str s)) s := pure s

theorem threshold (t : Threshold) : Reads (Intake.threshold (.int t.face)) t := by
  have onDie : (1 : Int) ≤ t.face ∧ (t.face : Int) ≤ 6 := by
    have := t.onDie
    omega
  exact check (int t.face) (by simp only [dif_pos onDie, Int.toNat_natCast])

theorem phase (p : Phase) : Reads (Intake.phase (.int p.number)) p := by
  have positive : (1 : Int) ≤ p.number := by
    have := p.positive
    omega
  exact check (int p.number) (by simp only [dif_pos positive, Int.toNat_natCast])

theorem threshold? (o : Option Threshold) :
    Reads (Intake.nullable Intake.threshold (Json.ofNat? (o.map (·.face)))) o := by
  have written : Json.ofNat? (o.map (·.face)) = (o.map fun t => .int t.face).getD .null := by cases o <;> rfl
  rw [written]
  exact nullable nofun o fun t _ => threshold t

theorem phase? (o : Option Phase) : Reads (Intake.nullable Intake.phase (Json.ofNat? (o.map (·.number)))) o := by
  have written : Json.ofNat? (o.map (·.number)) = (o.map fun p => .int p.number).getD .null := by cases o <;> rfl
  rw [written]
  exact nullable nofun o fun p _ => phase p

theorem moment (m : Moment) : Reads (Intake.moment (.str m.text)) m := by
  have parsed : Moment.parse? m.text = some m := m.parse?_text
  simp only [Intake.moment, momentOf, parsed]
  exact pure m

end Intake.Reads

variable {form : Form}

namespace Trigger

def written (t : Trigger) : List (Key × Json) :=
  [(Field.kind, .str t.kind), (Field.range, Json.ofNat? t.range), (Field.damageType, Json.ofText? t.damageType),
    (Field.minLevel, Json.ofNat? t.minLevel), (Field.minDistance, Json.ofNat? t.minDistance)]

def Told (form : Form) (t : Trigger) : Prop := form.Tells t.written t.extras.entries

theorem told_full (t : Trigger) : t.Told .full := Form.tells_full t.extras rfl

theorem write_form {t : Trigger} (told : t.Told form) : t.write form = .obj (form.entries t.written t.extras.entries) :=
  congrArg Json.obj (Form.extended_eq t.extras (by decide) rfl told)

theorem write_ne_null (form : Form) (t : Trigger) : t.write form ≠ .null := nofun

theorem reads_form {t : Trigger} (told : t.Told form) : Reads (Trigger.read (t.write form)) t := by
  rw [write_form told, Trigger.read, Intake.record]
  have found := Reads.found t.extras (by decide) rfl told
  obtain ⟨kind, range, damageType, minLevel, minDistance, extras⟩ := t
  simp only [written, List.forall_mem_cons] at found
  obtain ⟨kind_found, range_found, damageType_found, level_found, distance_found, -⟩ := found
  refine .seq ?_ (.extras (by decide) rfl told)
  refine .seq ?_ (distance_found.optional (.nat? minDistance))
  refine .seq ?_ (level_found.optional (.nat? minLevel))
  refine .seq ?_ (damageType_found.optional (.text? damageType))
  refine .seq ?_ (range_found.optional (.nat? range))
  exact .map Trigger.mk (kind_found.required (.occasion kind))

end Trigger

namespace Effect

theorem writeAll_eq (form : Form) (effects : List Effect) : writeAll form effects = effects.map (write form) := by
  induction effects with
  | nil => rw [writeAll, List.map_nil]
  | cons effect effects ih => rw [writeAll, List.map_cons, ih]

theorem told_of_mem {effects : List Effect} (told : AllTold form effects) : ∀ effect ∈ effects, Told form effect := by
  induction effects with
  | nil => exact List.forall_mem_nil _
  | cons effect effects ih => exact List.forall_mem_cons.2 ⟨told.1, ih told.2⟩

/-- A list of effects that is written is read back. -/
theorem reads_form_effects {effects : List Effect} (told : AllTold form effects) :
    Reads (Intake.list Effect.read (.arr (writeAll form effects))) effects := by
  rw [writeAll_eq]
  exact .list fun effect mem => reads_form effect (told_of_mem told effect mem)

end Effect

namespace Action

/-- The fields of an action, written in a form. -/
def parts (form : Form) (a : Action) : List (Key × Json) :=
  [(Field.id, .str a.id.text), (Field.name, .str a.name.text), (Field.description, .str a.description),
    (Field.kind, .str a.economy.name), (Field.cost, .int a.cost),
    (Field.trigger, (a.trigger.map (Trigger.write form)).getD .null),
    (Field.recharge, Json.ofNat? (a.recharge.map (·.face))), (Field.phase, Json.ofNat? (a.phase.map (·.number))),
    (Field.effects, .arr (Effect.writeAll form a.effects))]

/-- The form tells the extra keys of the trigger and of the effects. -/
def Told (form : Form) (a : Action) : Prop := (∀ t ∈ a.trigger, t.Told form) ∧ Effect.AllTold form a.effects

theorem told_full (a : Action) : a.Told .full := ⟨fun t _ => t.told_full, Effect.allTold_full a.effects⟩

theorem write_form (form : Form) (a : Action) : a.write form = .obj (form.entries (a.parts form) []) :=
  Form.record_fields form (a.parts form)

theorem reads_form {a : Action} (told : a.Told form) : Reads (Action.read (a.write form)) a := by
  rw [write_form, Action.read, Intake.record]
  have found := Reads.found_bare form keys (a.parts form) (by decide) rfl
  obtain ⟨id, name, description, economy, cost, trigger, recharge, phase, effects⟩ := a
  obtain ⟨trigger_told, effects_told⟩ := told
  simp only [parts, List.forall_mem_cons] at found
  obtain ⟨id_found, name_found, description_found, kind_found, cost_found, trigger_found, recharge_found, phase_found,
    effects_found, -⟩ := found
  have trigger_read := Reads.nullable (Trigger.write_ne_null form) trigger
    fun t mem => Trigger.reads_form (trigger_told t mem)
  refine .seqLeft ?_ (.noExtras (by decide) rfl)
  refine .seq ?_ (effects_found.field (Effect.reads_form_effects effects_told))
  refine .seq ?_ (phase_found.optional (.phase? phase))
  refine .seq ?_ (recharge_found.optional (.threshold? recharge))
  refine .seq ?_ (trigger_found.optional trigger_read)
  refine .seq ?_ (cost_found.field (.nat cost))
  refine .seq ?_ (kind_found.required (.tag economy))
  refine .seq ?_ (description_found.field (.text description))
  refine .seq ?_ (name_found.required (.name name))
  exact .map Action.mk (id_found.made (.label id))

end Action

namespace Recharge

def written (r : Recharge) : List (Key × Json) :=
  [(Field.actionId, .str r.action.text), (Field.threshold, .int r.threshold.face), (Field.charged, .bool r.charged)]

theorem write_form (form : Form) (r : Recharge) : r.write form = .obj (form.entries r.written []) :=
  Form.record_fields form r.written

theorem reads_form (form : Form) (r : Recharge) : Reads (Recharge.read (r.write form)) r := by
  rw [write_form, Recharge.read, Intake.record]
  have found := Reads.found_bare form keys r.written (by decide) rfl
  obtain ⟨action, threshold, charged⟩ := r
  simp only [written, List.forall_mem_cons] at found
  obtain ⟨action_found, threshold_found, charged_found, -⟩ := found
  refine .seqLeft ?_ (.noExtras (by decide) rfl)
  refine .seq ?_ (charged_found.field (.bool charged))
  refine .seq ?_ (threshold_found.field (.threshold threshold))
  exact .map Recharge.mk (action_found.required (.label action))

end Recharge

namespace HistoryEntry

def written (h : HistoryEntry) : List (Key × Json) :=
  [(Field.actionId, .str h.action), (Field.actionName, .str h.name), (Field.actionType, .str h.economy.name),
    (Field.cost, .int h.cost), (Field.round, .int h.round), (Field.success, .bool h.success),
    (Field.timestamp, .str h.timestamp.text)]

theorem write_form (form : Form) (h : HistoryEntry) : h.write form = .obj (form.entries h.written []) :=
  Form.record_fields form h.written

theorem reads_form (form : Form) (h : HistoryEntry) : Reads (HistoryEntry.read (h.write form)) h := by
  rw [write_form, HistoryEntry.read, Intake.record]
  have found := Reads.found_bare form keys h.written (by decide) rfl
  obtain ⟨action, name, economy, cost, round, success, timestamp⟩ := h
  simp only [written, List.forall_mem_cons] at found
  obtain ⟨action_found, name_found, kind_found, cost_found, round_found, success_found, timestamp_found, -⟩ := found
  refine .seqLeft ?_ (.noExtras (by decide) rfl)
  refine .seq ?_ (timestamp_found.made (.moment timestamp))
  refine .seq ?_ (success_found.field (.bool success))
  refine .seq ?_ (round_found.field (.int round))
  refine .seq ?_ (cost_found.field (.int cost))
  refine .seq ?_ (kind_found.required (.tag economy))
  refine .seq ?_ (name_found.required (.text name))
  exact .map HistoryEntry.mk (action_found.required (.text action))

end HistoryEntry

namespace Creature

/-- The fields of a creature, written in a form. -/
def parts (form : Form) (c : Creature) : List (Key × Json) :=
  [(Field.id, .str c.id.text), (Field.name, .str c.name.text), (Field.kind, .str c.side.name),
    (Field.description, .str c.description), (Field.actions, .arr (c.actions.map (Action.write form))),
    (Field.maxLegendaryActions, .int c.maxLegendary), (Field.remainingLegendaryActions, .int c.legendary),
    (Field.maxMythicActions, .int c.maxMythic), (Field.remainingMythicActions, .int c.mythic),
    (Field.mythicPhaseActive, .bool c.mythicActive), (Field.paragonPhases, .int c.paragonPhases),
    (Field.currentParagonPhase, .int c.paragonPhase), (Field.villainActionsPerRound, .int c.villainPerRound),
    (Field.usedVillainActionsThisRound, .int c.villainUsed),
    (Field.rechargeAbilities, .arr (c.recharges.map (Recharge.write form))),
    (Field.resistances, c.resistances.write), (Field.immunities, c.immunities.write),
    (Field.vulnerabilities, c.vulnerabilities.write),
    (Field.actionHistory, .arr (c.history.map (HistoryEntry.write form)))]

/-- The form tells every extra key in the actions of a creature from the fields. -/
def Told (form : Form) (c : Creature) : Prop := ∀ a ∈ c.actions, a.Told form

theorem told_full (c : Creature) : c.Told .full := fun a _ => a.told_full

theorem write_form (form : Form) (c : Creature) : c.write form = .obj (form.entries (c.parts form) []) :=
  Form.record_fields form (c.parts form)

/-- The fields of a creature as they are read back. -/
def given (c : Creature) : Given :=
  { c with legendary := some (c.legendary : Int), mythic := some (c.mythic : Int) }

theorem reads_given {c : Creature} (told : c.Told form) :
    Reads (readGiven (form.entries (c.parts form) [])) c.given := by
  have found := Reads.found_bare form keys (c.parts form) (by decide) rfl
  have words_solid (s : WordSet) : s.write ≠ .null := by simp [WordSet.write, Json.texts]
  obtain ⟨id, name, side, description, actions, maxLegendary, legendary, maxMythic, mythic, mythicActive,
    paragonPhases, paragonPhase, villainPerRound, villainUsed, recharges, resistances, immunities, vulnerabilities,
    history⟩ := c
  simp only [parts, List.forall_mem_cons] at found
  obtain ⟨id_found, name_found, side_found, description_found, actions_found, maxLegendary_found, legendary_found,
    maxMythic_found, mythic_found, mythicActive_found, phases_found, phase_found, villainPerRound_found,
    villainUsed_found, recharges_found, resistances_found, immunities_found, vulnerabilities_found, history_found,
    -⟩ := found
  refine .seqLeft ?_ (.noExtras (by decide) rfl)
  refine .seq ?_ (history_found.field (.list fun h _ => h.reads_form form))
  refine .seq ?_ (vulnerabilities_found.field vulnerabilities.reads_write (words_solid _))
  refine .seq ?_ (immunities_found.field immunities.reads_write (words_solid _))
  refine .seq ?_ (resistances_found.field resistances.reads_write (words_solid _))
  refine .seq ?_ (recharges_found.field (.list fun r _ => r.reads_form form))
  refine .seq ?_ (villainUsed_found.field (.nat villainUsed))
  refine .seq ?_ (villainPerRound_found.field (.nat villainPerRound))
  refine .seq ?_ (phase_found.field (.nat paragonPhase))
  refine .seq ?_ (phases_found.field (.nat paragonPhases))
  refine .seq ?_ (mythicActive_found.field (.bool mythicActive))
  refine .seq ?_ (mythic_found.optional (.int? (some mythic)))
  refine .seq ?_ (maxMythic_found.field (.nat maxMythic))
  refine .seq ?_ (legendary_found.optional (.int? (some legendary)))
  refine .seq ?_ (maxLegendary_found.field (.nat maxLegendary))
  refine .seq ?_ (actions_found.field (.list fun a mem => Action.reads_form (told a mem)))
  refine .seq ?_ (description_found.field (.text description))
  refine .seq ?_ (side_found.field (.tag side))
  refine .seq ?_ (name_found.required (.name name))
  exact .map Given.mk (id_found.made (.label id))

/-- **A creature that needs no bringing into its limits is read back**, in every form that tells its extra keys. -/
theorem reads_form {c : Creature} (told : c.Told form) (still : normalize c.given = .ok c) :
    Reads (Creature.read (c.write form)) c := by
  rw [write_form, Creature.read, Intake.record]
  exact (reads_given told).check still

theorem reads_write {c : Creature} (still : normalize c.given = .ok c) : Reads (Creature.read (c.write .full)) c :=
  reads_form c.told_full still

end Creature

end Bestiary
