import Bestiary.Proofs.Creature.Transaction
/-!
# Play — several creatures at one table

A table is an encounter that any number of creatures share.  In play the creatures are commanded in any order, and in
between the round, the turn, the event, the clock and the two flags are set.  `Played` has one case for each way a move
goes: a use that is carried out does what `Carried` says, every other command reaches no more of the encounter than the
dice and the log (`run_aside`).
-/
namespace Bestiary

structure Table where
  creatures : List Creature
  encounter : Encounter

namespace Table

/-- What a creature can use once until it is granted again. -/
inductive Flag where
  | reaction
  | bonus
  deriving DecidableEq, Repr

namespace Flag

def economy : Flag → Economy
  | .reaction => .reaction
  | .bonus => .bonus

def spent : Flag → Encounter → Bool
  | .reaction, e => e.reactionUsed
  | .bonus, e => e.bonusUsed

def set : Flag → Bool → Encounter → Encounter
  | .reaction, used, e => { e with reactionUsed := used }
  | .bonus, used, e => { e with bonusUsed := used }

end Flag

inductive Move where
  /-- The creature with this place is told to do something. -/
  | command (place : Nat) (command : Command) (supply : Supply)
  | setRound (round : Int)
  | setTurn (onTurn : Bool)
  | setTrigger (event : Option TriggerEvent)
  | setClock (now : Moment)
  /-- A flag is set, or granted again. -/
  | setFlag (flag : Flag) (used : Bool)

/-- A use that was carried out, and the encounter it was carried out in. -/
structure Use where
  creature : Creature
  encounter : Encounter
  action : Action
  options : Options
  report : Report

/-- The table after a move.  Where there is no creature nothing happens. -/
def play (t : Table) : Move → Table
  | .command place command supply =>
    match t.creatures[place]? with
    | some c =>
      let (_, c, e, _) := c.run command t.encounter supply
      ⟨t.creatures.set place c, e⟩
    | none => t
  | .setRound round => { t with encounter := { t.encounter with round := round } }
  | .setTurn onTurn => { t with encounter := { t.encounter with onTurn := onTurn } }
  | .setTrigger event => { t with encounter := { t.encounter with trigger := event } }
  | .setClock now => { t with encounter := { t.encounter with clock := now } }
  | .setFlag flag used => { t with encounter := flag.set used t.encounter }

/-- The use that a move carries out. -/
def use? (t : Table) : Move → Option Use
  | .command place (.use id o) _ => do
    let c ← t.creatures[place]?
    let a ← c.action? id
    let report ← (c.use id o t.encounter).1
    return ⟨c, t.encounter, a, o, report⟩
  | _ => none

def after (t : Table) : List Move → Table
  | [] => t
  | m :: ms => after (t.play m) ms

/-- The uses that some moves carry out, in order. -/
def uses (t : Table) : List Move → List Use
  | [] => []
  | m :: ms => (t.use? m).toList ++ uses (t.play m) ms

/-! ## Commands that are no uses -/

open Encounter (announce note noteAll)

/-- An encounter in which dice were rolled and something reported. -/
def Aside (e f : Encounter) : Prop := ∃ cup journal, f = { e with cup := cup, journal := journal }

theorem Aside.refl (e : Encounter) : Aside e e := ⟨e.cup, e.journal, rfl⟩

theorem Aside.trans {e f g : Encounter} : Aside e f → Aside f g → Aside e g := by
  rintro ⟨_, _, rfl⟩ ⟨cup, journal, rfl⟩
  exact ⟨cup, journal, rfl⟩

theorem aside_noteAll (ns : List Notice) (e : Encounter) : Aside e (noteAll ns e) := ⟨e.cup, _, rfl⟩

theorem aside_note (n : Notice) (e : Encounter) : Aside e (note n e) := ⟨e.cup, _, rfl⟩

theorem aside_announce (c : Creature) (a : Announcement) (e : Encounter) : Aside e (announce c a e) := ⟨e.cup, _, rfl⟩

theorem aside_rollDie (sides : Nat) (e : Encounter) : Aside e (Encounter.rollDie sides e).2 := by
  unfold Encounter.rollDie
  split
  · exact ⟨_, _, rfl⟩
  · exact ⟨_, e.journal, rfl⟩

theorem aside_addAction (a : Action) (c : Creature) (e : Encounter) : Aside e (c.addAction a e).2 := by
  refine Aside.trans ?_ (aside_announce _ _ _)
  split
  · exact aside_note _ _
  · exact Aside.refl e

theorem aside_removeAction (id : String) (c : Creature) (e : Encounter) : Aside e (c.removeAction id e).2.2 := by
  unfold Creature.removeAction
  split
  · exact aside_note _ _
  · exact aside_announce _ _ _

theorem aside_advanceParagon (c : Creature) (e : Encounter) : Aside e (c.advanceParagon e).2.2 := by
  unfold Creature.advanceParagon
  split
  · exact Aside.refl e
  · exact (aside_note _ e).trans (aside_announce _ _ _)

theorem aside_rollRecharges (c : Creature) : ∀ (rs : List Recharge) (e : Encounter),
    Aside e (c.rollRecharges rs e).2.2
  | [], e => Aside.refl e
  | r :: rest, e => by
    rw [Creature.rollRecharges]
    split
    · exact aside_rollRecharges c rest e
    · refine (aside_rollDie 6 e).trans (Aside.trans ?_ (aside_rollRecharges c rest _))
      refine Aside.trans ?_ (aside_note _ _)
      split
      · exact aside_announce _ _ _
      · exact Aside.refl _

/-- **A command that carries out no use rolls and reports, and leaves everything else in the encounter as it is.** -/
theorem run_aside {command : Command} (c : Creature) (e : Encounter) (s : Supply)
    (idle : ∀ id o, command = .use id o → ∀ a, c.action? id = some a → c.canUse a e = false) :
    Aside e (c.run command e s).2.2.1 := by
  cases command with
  | use id o =>
    obtain ⟨ns, refused⟩ := Creature.use_of_unable o (idle id o rfl)
    simp only [Creature.run]
    rw [refused]
    exact aside_noteAll ns e
  | addAction submission =>
    simp only [Creature.run]
    split
    · exact aside_addAction _ c e
    · exact Aside.refl e
  | removeAction id => exact aside_removeAction id c e
  | resetLegendary => exact aside_announce _ _ e
  | resetMythic => exact aside_announce _ _ e
  | resetVillain => exact aside_announce _ _ e
  | activateMythic => exact (aside_announce _ _ e).trans ((aside_note _ _).trans (aside_announce _ _ _))
  | deactivateMythic => exact (aside_note _ e).trans (aside_announce _ _ _)
  | advanceParagon => exact aside_advanceParagon c e
  | attemptRecharge => exact aside_rollRecharges c _ e
  | startRound =>
    exact ((aside_announce _ _ e).trans (aside_announce _ _ _)).trans (aside_rollRecharges _ _ _)

/-! ## Moves -/

theorem roster_act (a : Action) (o : Options) (c : Creature) (e : Encounter) :
    (Creature.act a o c e).2.2.roster = (Encounter.perform (c.complete o e) a e).2.roster := by
  have kept (f : Encounter) : (Creature.spend a f).roster = f.roster := by
    unfold Creature.spend
    cases a.economy <;> rfl
  exact kept _

/-- **The ways a move goes**, with the use it carries out and the encounter after it. -/
inductive Played (t : Table) : Move → Option Use → Encounter → Prop where
  | used {place id o s c a report c' f} (seated : t.creatures[place]? = some c) (found : c.action? id = some a)
      (able : c.canUse a t.encounter = true) (carried : Creature.Carried o c t.encounter a report c' f)
      (roster : f.roster = (Encounter.perform (c.complete o t.encounter) a
        (noteAll (Creature.checkNotices a t.encounter) t.encounter)).2.roster) :
      Played t (.command place (.use id o) s) (some ⟨c, t.encounter, a, o, report⟩) f
  | aside {place command s f} (aside : Aside t.encounter f) : Played t (.command place command s) none f
  | round (round) : Played t (.setRound round) none { t.encounter with round := round }
  | turn (onTurn) : Played t (.setTurn onTurn) none { t.encounter with onTurn := onTurn }
  | trigger (event) : Played t (.setTrigger event) none { t.encounter with trigger := event }
  | clock (now) : Played t (.setClock now) none { t.encounter with clock := now }
  | flag (flag used) : Played t (.setFlag flag used) none (flag.set used t.encounter)

theorem use?_use (t : Table) {place : Nat} {c : Creature} (seated : t.creatures[place]? = some c) (id : String)
    (o : Options) (s : Supply) : t.use? (.command place (.use id o) s) =
      (c.action? id).bind fun a => (c.use id o t.encounter).1.map fun report => ⟨c, t.encounter, a, o, report⟩ := by
  simp only [use?, seated, Option.bind_eq_bind, Option.bind_some]
  cases c.action? id <;> cases (c.use id o t.encounter).1 <;> rfl

/-- Every move goes one of the ways. -/
theorem play_played (t : Table) (m : Move) : Played t m (t.use? m) (t.play m).encounter := by
  cases m with
  | command place command s =>
    cases seated : t.creatures[place]? with
    | none =>
      have idle : t.use? (.command place command s) = none := by
        cases command <;> simp [use?, seated]
      rw [idle]
      simp only [play, seated]
      exact .aside (Aside.refl _)
    | some c =>
      simp only [play, seated]
      by_cases idle : ∀ id o, command = .use id o → ∀ a, c.action? id = some a → c.canUse a t.encounter = false
      · have unused : t.use? (.command place command s) = none := by
          cases command with
          | use id o =>
            rw [use?_use t seated, (Creature.use_none_iff id o c t.encounter).2 (idle id o rfl)]
            cases c.action? id <;> rfl
          | _ => rfl
        rw [unused]
        exact .aside (run_aside c t.encounter s idle)
      · simp only [Classical.not_forall, Bool.not_eq_false] at idle
        obtain ⟨id, o, rfl, a, found, able⟩ := idle
        have carried := Creature.carried_act o able
        have roster := roster_act a o c (noteAll (Creature.checkNotices a t.encounter) t.encounter)
        have run := Creature.use_of_able o found able
        rw [use?_use t seated, found, run]
        simp only [Creature.run, run]
        exact .used seated found able carried roster
  | setRound round => exact .round round
  | setTurn onTurn => exact .turn onTurn
  | setTrigger event => exact .trigger event
  | setClock now => exact .clock now
  | setFlag flag used => exact .flag flag used

/-- A creature that has these actions and nothing else. -/
def commoner (id : Label) (actions : List Action) : Creature :=
  { id := id, name := ⟨"Commoner", by decide⟩, side := .monster, description := "", actions := actions,
    maxLegendary := 0, legendary := 0, maxMythic := 0, mythic := 0, mythicActive := false, paragonPhases := 0,
    paragonPhase := 0, villainPerRound := 0, villainUsed := 0, recharges := [], resistances := .empty,
    immunities := .empty, vulnerabilities := .empty, history := [] }

end Table
end Bestiary
