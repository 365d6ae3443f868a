import Bestiary.Proofs.Creature.Limits
/-!
# Transaction — a use happens as a whole or not at all

A use is refused before anything happens, or it is paid for and entered whatever its effects come to
(`use_transaction`).  The frame of the effects is `perform_undisturbed`: between the check and the payment they reach
neither the creature nor what the payment reads.
-/
namespace Bestiary

namespace Emission

theorem announcements_append (xs ys : List Emission) :
    announcements (xs ++ ys) = announcements xs ++ announcements ys :=
  List.filterMap_append

end Emission

namespace Creature

open Encounter (announce note noteAll perform Undisturbed perform_undisturbed evening)

theorem announcements_noteAll (ns : List Notice) (e : Encounter) :
    Emission.announcements (noteAll ns e).journal = Emission.announcements e.journal := by
  have quiet : Emission.announcements (ns.map .note) = [] := by
    simp [Emission.announcements]
  rw [noteAll, Emission.announcements_append, quiet, List.append_nil]

theorem announcements_note (n : Notice) (e : Encounter) :
    Emission.announcements (note n e).journal = Emission.announcements e.journal :=
  announcements_noteAll [n] e

theorem announcements_announce (c : Creature) (a : Announcement) (e : Encounter) :
    Emission.announcements (announce c a e).journal = Emission.announcements e.journal ++ [a] :=
  Emission.announcements_append _ _

/-! ## Flags -/

theorem spend_reactionUsed (a : Action) (e : Encounter) :
    (spend a e).reactionUsed = (e.reactionUsed || decide (a.economy = .reaction)) := by
  unfold spend
  cases a.economy <;> simp

theorem spend_bonusUsed (a : Action) (e : Encounter) :
    (spend a e).bonusUsed = (e.bonusUsed || decide (a.economy = .bonus)) := by
  unfold spend
  cases a.economy <;> simp

/-- Paying sets flags and nothing else. -/
theorem undisturbed_spend (a : Action) (e : Encounter) :
    Undisturbed e { spend a e with reactionUsed := e.reactionUsed, bonusUsed := e.bonusUsed } := by
  unfold spend
  cases a.economy <;> exact ⟨rfl, rfl, rfl, rfl, rfl, rfl, rfl, rfl, rfl, rfl⟩

theorem spend_journal (a : Action) (e : Encounter) : (spend a e).journal = e.journal := by
  unfold spend
  cases a.economy <;> rfl

/-! ## Uses -/

/-- **What a use that is carried out leaves.**  The report is that of the effects; the creature paid once and has one
entry more; at the table only the flag of the action's economy is set and one announcement made, apart from what
effects do. -/
structure Carried (o : Options) (c : Creature) (e : Encounter) (a : Action) (report : Report) (c' : Creature)
    (f : Encounter) : Prop where
  performed : report = (perform (c.complete o e) a (noteAll (checkNotices a e) e)).1
  charged : ∃ d, Paid a c a.economy d ∧ c' = { d with
    history := c.history ++ [⟨a.id.text, a.name.text, a.economy, a.cost, e.round, report.success, e.clock⟩] }
  reaction : f.reactionUsed = (e.reactionUsed || decide (a.economy = .reaction))
  bonus : f.bonusUsed = (e.bonusUsed || decide (a.economy = .bonus))
  elsewhere : Undisturbed e { f with
    reactionUsed := e.reactionUsed, bonusUsed := e.bonusUsed, journal := e.journal }
  announced : Emission.announcements f.journal = Emission.announcements e.journal ++ [.actionUsed a report]

/-- After the effects the flag of the action is set, and the use is reported and announced. -/
theorem act_table (a : Action) (o : Options) (c : Creature) (e : Encounter) :
    ∃ f n, Undisturbed e f ∧ (act a o c e).2.2 = announce (act a o c e).2.1 (.actionUsed a (act a o c e).1)
      (note n (spend a f)) :=
  ⟨_, _, perform_undisturbed (c.complete o e) a e, rfl⟩

theorem undisturbed_noteAll (ns : List Notice) (e : Encounter) : Undisturbed e (noteAll ns e) :=
  ⟨rfl, rfl, rfl, rfl, rfl, rfl, rfl, rfl, rfl, announcements_noteAll ns e⟩

theorem carried_act (o : Options) {c : Creature} {e : Encounter} {a : Action} (able : c.canUse a e = true) :
    Carried o c e a (act a o c (noteAll (checkNotices a e) e)).1 (act a o c (noteAll (checkNotices a e) e)).2.1
      (act a o c (noteAll (checkNotices a e) e)).2.2 := by
  obtain ⟨f, n, effects, table⟩ := act_table a o c (noteAll (checkNotices a e) e)
  have frame := (undisturbed_noteAll (checkNotices a e) e).trans effects
  rw [table]
  refine ⟨rfl, ⟨pay a c, paid_of_able able, act_creature a o c _⟩, ?_, ?_, ?_, ?_⟩
  · rw [← frame.reactionUsed]
    exact spend_reactionUsed a f
  · rw [← frame.bonusUsed]
    exact spend_bonusUsed a f
  · exact { frame.trans (undisturbed_spend a f) with reactionUsed := rfl, bonusUsed := rfl, announcements := rfl }
  · rw [announcements_announce, announcements_note, spend_journal, frame.announcements]

theorem use_none_iff (id : String) (o : Options) (c : Creature) (e : Encounter) :
    (c.use id o e).1 = none ↔ ∀ a, c.action? id = some a → c.canUse a e = false := by
  constructor
  · intro refused a found
    cases able : c.canUse a e with
    | false => rfl
    | true =>
      rw [use_of_able o found able] at refused
      cases refused
  · intro unable
    obtain ⟨ns, h⟩ := use_of_unable o unable
    rw [h]

/-- **A use is a transaction.**  It answers nothing exactly when there is no action with the id or the first one cannot
be used, and then it left notices in the log and nothing else.  Otherwise it was carried out, paid for and entered,
whatever became of the effects. -/
theorem use_transaction (id : String) (o : Options) (c : Creature) (e : Encounter) :
    ((c.use id o e).1 = none ↔ ∀ a, c.action? id = some a → c.canUse a e = false) ∧
    ((c.use id o e).1 = none → (c.use id o e).2.1 = c ∧
      (∃ ns : List Notice, (c.use id o e).2.2 = { e with journal := e.journal ++ ns.map .note }) ∧
      Emission.announcements (c.use id o e).2.2.journal = Emission.announcements e.journal) ∧
    ∀ report, (c.use id o e).1 = some report → ∃ a, c.action? id = some a ∧ c.canUse a e = true ∧
      Carried o c e a report (c.use id o e).2.1 (c.use id o e).2.2 := by
  refine ⟨use_none_iff id o c e, fun refused => ?_, fun report answered => ?_⟩
  · obtain ⟨ns, h⟩ := use_of_unable o ((use_none_iff id o c e).1 refused)
    rw [h]
    exact ⟨rfl, ⟨ns, rfl⟩, announcements_noteAll ns e⟩
  · have possible : ¬∀ a, c.action? id = some a → c.canUse a e = false := fun unable => by
      rw [(use_none_iff id o c e).2 unable] at answered
      cases answered
    simp only [Classical.not_forall, Bool.not_eq_false] at possible
    obtain ⟨a, found, able⟩ := possible
    rw [use_of_able o found able] at answered ⊢
    injection answered with answered
    refine ⟨a, found, able, ?_⟩
    rw [← answered]
    exact carried_act o able

/-- A legendary action whose only effect fails: there is nothing to summon. -/
def hollowCall : Action :=
  { id := ⟨"call", by decide⟩, name := ⟨"Call", by decide⟩, description := "", economy := .legendary, cost := 2,
    trigger := none, recharge := none, phase := none, effects := [.impact none (.summon .null 1 .null)] }

/-- A table at which the dragon is alone. -/
def callingTable : Encounter := .opening [] []

theorem use_transaction_hollowCall : ∃ c s', (Creature.read overdrawnDragon).run ⟨0, evening⟩ = (.ok c, s') ∧
    let d := (c.addAction hollowCall callingTable).1
    ∃ report, (d.use "call" .none callingTable).1 = some report ∧ report.success = false ∧
      ∃ a, d.action? "call" = some a ∧ d.canUse a callingTable = true ∧ Carried .none d callingTable a report
        (d.use "call" .none callingTable).2.1 (d.use "call" .none callingTable).2.2 :=
  ⟨_, _, rfl, _, rfl, rfl, (use_transaction "call" .none _ callingTable).2.2 _ rfl⟩

end Creature
end Bestiary
