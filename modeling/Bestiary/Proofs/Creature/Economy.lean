import Bestiary.Proofs.Creature.Recharging
import Bestiary.Proofs.Creature.Transaction
/-!
# Economy — a use draws on its own economy and gives nothing back

What can be used after a use is what could be used with the action paid for and its flag set: the effects in between
reach nothing that availability reads (`canUse_act`).  Paying and setting a flag touch one economy and make nothing
available, so a use does neither (`use_consumes`).
-/
namespace Bestiary
namespace Creature

open Encounter (announce note noteAll Undisturbed evening)

/-- Availability reads two flags, the turn and the event of an encounter. -/
theorem canUse_congr (c : Creature) (b : Action) {e f : Encounter} (reaction : f.reactionUsed = e.reactionUsed)
    (bonus : f.bonusUsed = e.bonusUsed) (turn : f.onTurn = e.onTurn) (event : f.trigger = e.trigger) :
    c.canUse b f = c.canUse b e := by
  unfold canUse
  rw [reaction, bonus, turn, event]

/-! ## Paying -/

theorem canUse_pay_of_ne {a b : Action} (other : b.economy ≠ a.economy) (c : Creature) (e : Encounter) :
    (pay a c).canUse b e = c.canUse b e := by
  unfold canUse pay
  cases own : a.economy with
  | lair | paragon | reaction | bonus => rfl
  | legendary | mythic | villain | recharge =>
    rw [own] at other
    cases economy : b.economy <;> first | rfl | exact absurd economy other

theorem any_charged_of_discharge {x y : String} {rs : List Recharge}
    (charged : ((discharge y rs).find? fun r => r.action.text == x).any (·.charged) = true) :
    (rs.find? fun r => r.action.text == x).any (·.charged) = true := by
  by_cases own : x = y
  · subst own
    rw [find?_discharge_self, Option.any_map] at charged
    cases found : rs.find? fun r => r.action.text == x with
    | none => simp [found] at charged
    | some r => simp [found] at charged
  · rwa [find?_discharge_of_ne own] at charged

/-- **Paying makes nothing available.** -/
theorem canUse_of_canUse_pay {a b : Action} {c : Creature} {e : Encounter} (able : (pay a c).canUse b e = true) :
    c.canUse b e = true := by
  by_cases same : b.economy = a.economy
  · unfold canUse pay at able
    unfold canUse
    rw [same] at able ⊢
    cases economy : a.economy with
    | legendary =>
      simp only [economy, decide_eq_true_eq] at able ⊢
      omega
    | mythic =>
      simp only [economy, Bool.and_eq_true, decide_eq_true_eq] at able ⊢
      exact ⟨able.1, by omega⟩
    | villain =>
      simp only [economy, decide_eq_true_eq] at able ⊢
      omega
    | recharge =>
      simp only [economy] at able ⊢
      exact any_charged_of_discharge able
    | lair => rfl
    | paragon | reaction | bonus => simpa only [economy] using able
  · rwa [canUse_pay_of_ne same] at able

/-! ## Flags -/

theorem canUse_spend_of_ne {a b : Action} (other : b.economy ≠ a.economy) (c : Creature) (e : Encounter) :
    c.canUse b (spend a e) = c.canUse b e := by
  unfold canUse spend
  cases own : a.economy with
  | legendary | mythic | villain | recharge | lair | paragon => rfl
  | reaction | bonus =>
    rw [own] at other
    cases economy : b.economy <;> first | rfl | exact absurd economy other

/-- **Setting a flag makes nothing available.** -/
theorem canUse_of_canUse_spend {a b : Action} {c : Creature} {e : Encounter} (able : c.canUse b (spend a e) = true) :
    c.canUse b e = true := by
  by_cases same : b.economy = a.economy
  · unfold canUse spend at able
    unfold canUse
    rw [same] at able ⊢
    cases economy : a.economy with
    | reaction => simp [economy] at able
    | bonus => simp [economy] at able
    | lair => rfl
    | legendary | mythic | villain | recharge | paragon => simpa only [economy] using able
  · rwa [canUse_spend_of_ne same] at able

/-! ## Uses -/

/-- **After a use that is carried out, what can be used is decided by the payment and the flag alone.** -/
theorem canUse_act (a b : Action) (o : Options) (c : Creature) (e : Encounter) :
    (act a o c e).2.1.canUse b (act a o c e).2.2 = (pay a c).canUse b (spend a e) := by
  obtain ⟨f, n, effects, table⟩ := act_table a o c e
  have turn : (spend a f).onTurn = (spend a e).onTurn := by
    rw [(undisturbed_spend a f).onTurn, (undisturbed_spend a e).onTurn, effects.onTurn]
  have event : (spend a f).trigger = (spend a e).trigger := by
    rw [(undisturbed_spend a f).trigger, (undisturbed_spend a e).trigger, effects.trigger]
  have reaction : (spend a f).reactionUsed = (spend a e).reactionUsed := by
    rw [spend_reactionUsed, spend_reactionUsed, effects.reactionUsed]
  have bonus : (spend a f).bonusUsed = (spend a e).bonusUsed := by
    rw [spend_bonusUsed, spend_bonusUsed, effects.bonusUsed]
  rw [table, act_creature]
  exact canUse_congr (pay a c) b reaction bonus turn event

/-- **A use consumes, and only from its own economy.**  After a use of an action that was carried out, whatever became
of the effects, each action of another economy is as available as before it, and no action is available that was not:
what can be used of the catalogue is part of what could be used before. -/
theorem use_consumes (id : String) (o : Options) (c : Creature) (e : Encounter) (report : Report)
    (carried : (c.use id o e).1 = some report) :
    ∃ a, c.action? id = some a ∧ c.canUse a e = true ∧
      (∀ b, b.economy ≠ a.economy → (c.use id o e).2.1.canUse b (c.use id o e).2.2 = c.canUse b e) ∧
      (∀ b, c.canUse b e = false → (c.use id o e).2.1.canUse b (c.use id o e).2.2 = false) ∧
      ((c.use id o e).2.1.available (c.use id o e).2.2).Sublist (c.available e) := by
  have possible : ¬∀ a, c.action? id = some a → c.canUse a e = false := fun unable => by
    rw [(use_none_iff id o c e).2 unable] at carried
    cases carried
  simp only [Classical.not_forall, Bool.not_eq_false] at possible
  obtain ⟨a, found, able⟩ := possible
  rw [use_of_able o found able]
  dsimp only
  have same (b : Action) : (act a o c (noteAll (checkNotices a e) e)).2.1.canUse b
      (act a o c (noteAll (checkNotices a e) e)).2.2 = (pay a c).canUse b (spend a e) := by
    rw [canUse_act]
    unfold spend
    cases a.economy <;> rfl
  have consumed (b : Action) (able : (pay a c).canUse b (spend a e) = true) : c.canUse b e = true :=
    canUse_of_canUse_spend (canUse_of_canUse_pay able)
  refine ⟨a, found, able, fun b other => ?_, fun b unable => ?_, ?_⟩
  · rw [same, canUse_pay_of_ne other, canUse_spend_of_ne other]
  · rw [same, ← Bool.not_eq_true]
    intro able
    rw [consumed b able] at unable
    cases unable
  · have catalogue : (act a o c (noteAll (checkNotices a e) e)).2.1.actions = c.actions := by
      rw [act_creature]
      unfold pay
      cases a.economy <;> rfl
    unfold available
    rw [catalogue]
    refine List.monotone_filter_right c.actions fun b able => ?_
    rw [same] at able
    exact consumed b able

theorem use_consumes_hollowCall : ∃ c s', (Creature.read overdrawnDragon).run ⟨0, evening⟩ = (.ok c, s') ∧
    let d := (c.addAction hollowCall callingTable).1
    let ids (c : Creature) (e : Encounter) := (c.available e).map fun a => a.id.text
    ids d callingTable = ["tail", "breath", "call"] ∧
    ids (d.use "call" .none callingTable).2.1 (d.use "call" .none callingTable).2.2 = ["breath"] ∧
    ∃ report, (d.use "call" .none callingTable).1 = some report ∧ ∃ a, d.action? "call" = some a ∧
      d.canUse a callingTable = true ∧
      (∀ b, b.economy ≠ a.economy → (d.use "call" .none callingTable).2.1.canUse b
        (d.use "call" .none callingTable).2.2 = d.canUse b callingTable) ∧
      (∀ b, d.canUse b callingTable = false → (d.use "call" .none callingTable).2.1.canUse b
        (d.use "call" .none callingTable).2.2 = false) ∧
      ((d.use "call" .none callingTable).2.1.available (d.use "call" .none callingTable).2.2).Sublist
        (d.available callingTable) :=
  ⟨_, _, rfl, by decide +kernel, by decide +kernel, _, rfl, use_consumes "call" .none _ callingTable _ rfl⟩

end Creature
end Bestiary
