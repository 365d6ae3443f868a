import Bestiary.Creature.Command
import Bestiary.Proofs.Encounter.Backdrop
/-!
# Step — everything a command can do to a creature

`Step` has one case for each way a command goes, with its guard, its answer and the creature after it; `run_step` says
that every command takes one of them.  A creature's life is a list of turns, each in an encounter and with a supply of
its own, so nothing is assumed of what happens at the table between two commands (`Turn`, `Creature.after`).
-/
namespace Bestiary

/-- A command with the encounter and the supply it is carried out with. -/
structure Turn where
  command : Command
  encounter : Encounter
  supply : Supply

namespace Creature

open Encounter (noteAll Undisturbed perform_undisturbed)

/-! ## Uses -/

theorem canUse_noteAll (c : Creature) (a : Action) (ns : List Notice) (e : Encounter) :
    c.canUse a (noteAll ns e) = c.canUse a e := rfl

/-- **A use that is refused leaves notices and nothing else.** -/
theorem use_of_unable {id : String} {c : Creature} {e : Encounter} (o : Options)
    (unable : ∀ a, c.action? id = some a → c.canUse a e = false) : ∃ ns, c.use id o e = (none, c, noteAll ns e) := by
  unfold use
  cases found : c.action? id with
  | none => exact ⟨[.actionNotFound c.name.text id c.id.text], rfl⟩
  | some a =>
    refine ⟨checkNotices a e ++ [.actionUnavailable c.name.text id a.economy], ?_⟩
    dsimp only
    rw [canUse_noteAll, unable a found]
    simp [noteAll, Encounter.note]

/-- A use that is possible carries out the first action with the id. -/
theorem use_of_able {id : String} {c : Creature} {e : Encounter} {a : Action} (o : Options)
    (found : c.action? id = some a) (able : c.canUse a e = true) :
    c.use id o e = (some (act a o c (noteAll (checkNotices a e) e)).1, (act a o c (noteAll (checkNotices a e) e)).2) := by
  unfold use
  rw [found]
  simp [canUse_noteAll, able]

/-- **What an action of an economy takes from a creature that can use it**: its whole cost from its pool, one of the
villain actions of the round, or the charge of the first recharge that is bound to it. -/
inductive Paid (a : Action) (c : Creature) : Economy → Creature → Prop where
  | legendary (affordable : a.cost ≤ c.legendary) : Paid a c .legendary { c with legendary := c.legendary - a.cost }
  | mythic (active : c.mythicActive = true) (affordable : a.cost ≤ c.mythic) :
    Paid a c .mythic { c with mythic := c.mythic - a.cost }
  | villain (room : c.villainUsed < c.villainPerRound) : Paid a c .villain { c with villainUsed := c.villainUsed + 1 }
  | recharge {before r after} (bound : c.recharges = before ++ r :: after) (own : r.action.text = a.id.text)
      (first : ∀ q ∈ before, q.action.text ≠ a.id.text) (charged : r.charged = true) :
    Paid a c .recharge { c with recharges := before ++ { r with charged := false } :: after }
  | free {economy} (unpriced : economy ∈ [.lair, .paragon, .reaction, .bonus]) : Paid a c economy c

/-- Discharging changes the first recharge with the id. -/
theorem discharge_of_find {id : String} {r : Recharge} : ∀ {rs : List Recharge},
    rs.find? (fun q => q.action.text == id) = some r → ∃ before after, rs = before ++ r :: after ∧
      r.action.text = id ∧ (∀ q ∈ before, q.action.text ≠ id) ∧
      discharge id rs = before ++ { r with charged := false } :: after
  | [], h => nomatch h
  | q :: rs, h => by
    unfold discharge
    by_cases own : q.action.text = id
    · rw [List.find?_cons_of_pos (by simpa using own)] at h
      injection h with h
      subst h
      exact ⟨[], rs, rfl, own, by simp, if_pos own⟩
    · rw [List.find?_cons_of_neg (by simpa using own)] at h
      obtain ⟨before, after, rfl, hr, first, hd⟩ := discharge_of_find h
      refine ⟨q :: before, after, rfl, hr, fun p hp => ?_, ?_⟩
      · rcases List.mem_cons.1 hp with rfl | hp
        · exact own
        · exact first p hp
      · rw [if_neg own, hd, List.cons_append]

/-- **An action that can be used is paid for in full.** -/
theorem paid_of_able {a : Action} {c : Creature} {e : Encounter} (able : c.canUse a e = true) :
    Paid a c a.economy (pay a c) := by
  unfold canUse at able
  unfold pay
  cases economy : a.economy with
  | legendary =>
    rw [economy] at able
    exact .legendary (of_decide_eq_true able)
  | mythic =>
    rw [economy, Bool.and_eq_true] at able
    exact .mythic able.1 (of_decide_eq_true able.2)
  | villain =>
    rw [economy] at able
    have room : c.villainUsed < c.villainPerRound := of_decide_eq_true able
    rw [Nat.min_eq_right room]
    exact .villain room
  | recharge =>
    rw [economy] at able
    cases found : c.recharge? a.id.text with
    | none =>
      rw [found] at able
      cases able
    | some r =>
      rw [found] at able
      obtain ⟨before, after, bound, own, first, discharged⟩ := discharge_of_find found
      rw [discharged]
      exact .recharge bound own first able
  | lair => exact .free (by simp)
  | paragon => exact .free (by simp)
  | reaction => exact .free (by simp)
  | bonus => exact .free (by simp)

/-- The history entry of a use reads nothing that effects change. -/
theorem entry_undisturbed (a : Action) (r : Report) {e f : Encounter} (h : Undisturbed e f) :
    entry a r f = entry a r e := by
  unfold entry
  rw [h.round, h.clock]

theorem entry_spend (a : Action) (r : Report) (e : Encounter) : entry a r (spend a e) = entry a r e := by
  unfold spend
  split <;> rfl

/-- The creature after a use, read off the encounter before it. -/
theorem act_creature (a : Action) (o : Options) (c : Creature) (e : Encounter) :
    (act a o c e).2.1 = { pay a c with history := c.history ++ [entry a (act a o c e).1 e] } := by
  simp only [act]
  rw [entry_spend, entry_undisturbed a _ (perform_undisturbed (c.complete o e) a e)]

/-! ## Steps -/

/-- **The ways a command goes.** -/
inductive Step (c : Creature) (e : Encounter) : Command → Response → Creature → Prop where
  | refused {id o} (unable : ∀ a, c.action? id = some a → c.canUse a e = false) :
    Step c e (.use id o) (.report none) c
  | used {id o a} (report : Report) (found : c.action? id = some a) (able : c.canUse a e = true) :
    Step c e (.use id o) (.report (some report)) { pay a c with history := c.history ++ [entry a report e] }
  | added {submission s s'} (a : Action) (accepted : accept submission s = (.ok a, s')) :
    Step c e (.addAction submission) (.added a)
      { c with actions := upsert a c.actions, recharges := rebind a c.recharges }
  | rejected {submission s s'} (issues : List Issue) (rejected : accept submission s = (.error issues, s')) :
    Step c e (.addAction submission) (.refused issues) c
  | removed {id a} (found : c.action? id = some a) :
    Step c e (.removeAction id) (.flag true)
      { c with
        actions := c.actions.eraseP fun b => b.id.text == id
        recharges := c.recharges.filter fun r => r.action.text != id }
  | unknown {id} (missing : c.action? id = none) : Step c e (.removeAction id) (.flag false) c
  | legendaryFilled : Step c e .resetLegendary .done { c with legendary := c.maxLegendary }
  | mythicFilled : Step c e .resetMythic .done { c with mythic := c.maxMythic }
  | villainCleared : Step c e .resetVillain .done { c with villainUsed := 0 }
  | mythicBegun : Step c e .activateMythic .done { c with mythicActive := true, mythic := c.maxMythic }
  | mythicEnded : Step c e .deactivateMythic .done { c with mythicActive := false, mythic := 0 }
  | advanced (before : c.paragonPhase < c.paragonPhases) :
    Step c e .advanceParagon (.flag true) { c with paragonPhase := c.paragonPhase + 1 }
  | atLast (last : c.paragonPhases ≤ c.paragonPhase) : Step c e .advanceParagon (.flag false) c
  | recharged {who ids rs f} (rolled : rollRecharges who c.recharges e = (ids, rs, f)) :
    Step c e .attemptRecharge (.ids ids) { c with recharges := rs }
  | begun {who ids rs e' f} (same : e'.cup = e.cup) (rolled : rollRecharges who c.recharges e' = (ids, rs, f)) :
    Step c e .startRound (.ids ids)
      { c with legendary := c.maxLegendary, villainUsed := 0, recharges := rs }

/-- **Every command takes one of the steps.** -/
theorem run_step (command : Command) (c : Creature) (e : Encounter) (s : Supply) :
    Step c e command (c.run command e s).1 (c.run command e s).2.1 := by
  cases command with
  | use id o =>
    simp only [run]
    by_cases unable : ∀ a, c.action? id = some a → c.canUse a e = false
    · obtain ⟨ns, h⟩ := use_of_unable o unable
      rw [h]
      exact .refused unable
    · simp only [Classical.not_forall, Bool.not_eq_false] at unable
      obtain ⟨a, found, able⟩ := unable
      rw [use_of_able o found able]
      dsimp only
      rw [act_creature]
      exact .used _ found able
  | addAction submission =>
    simp only [run]
    rcases accepted : accept submission s with ⟨issues | a, s'⟩
    · exact .rejected issues accepted
    · exact .added a accepted
  | removeAction id =>
    simp only [run, removeAction]
    cases found : c.action? id with
    | none => exact .unknown found
    | some a => exact .removed found
  | resetLegendary => exact .legendaryFilled
  | resetMythic => exact .mythicFilled
  | resetVillain => exact .villainCleared
  | activateMythic => exact .mythicBegun
  | deactivateMythic => exact .mythicEnded
  | advanceParagon =>
    simp only [run, advanceParagon]
    split
    · rename_i last
      exact .atLast last
    · rename_i before
      exact .advanced (Nat.lt_of_not_le before)
  | attemptRecharge => exact .recharged rfl
  | startRound =>
    have same : ((c.resetLegendary e).1.resetVillain (c.resetLegendary e).2).2.cup = e.cup := rfl
    exact .begun same rfl

/-- The creature after some turns. -/
def after (c : Creature) : List Turn → Creature
  | [] => c
  | t :: ts => after (c.run t.command t.encounter t.supply).2.1 ts

theorem after_append : ∀ (ts us : List Turn) (c : Creature), c.after (ts ++ us) = (c.after ts).after us
  | [], _, _ => rfl
  | t :: ts, us, c => by
    rw [List.cons_append, after, after, after_append ts us]

/-- **What every step keeps, every run keeps.** -/
theorem after_keeps {P : Creature → Prop}
    (step : ∀ {c e command r c'}, Step c e command r c' → P c → P c') :
    ∀ (ts : List Turn) (c : Creature), P c → P (c.after ts)
  | [], _, h => h
  | t :: ts, c, h => by
    rw [after]
    exact after_keeps step ts _ (step (run_step t.command c t.encounter t.supply) h)

end Creature
end Bestiary
