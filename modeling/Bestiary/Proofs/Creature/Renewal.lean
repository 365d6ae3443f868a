import Bestiary.Proofs.Creature.Recharging
import Bestiary.Proofs.Dice.Die
import Bestiary.Proofs.Table.Play
/-!
# Renewal — every roll goes to the recharge it is made for

Rolls go in order to the recharges that are not charged, one to each; a charged recharge leaves them to those after it
(`rollOf`).  So what an attempt to recharge answers, announces and leaves can be read off the recharges and the stream
of rolls, place by place (`Renews`), and better rolls renew no less (`attemptRecharge_renews`).
-/
namespace Bestiary
namespace Creature

open Encounter (note announce rollDie d6_congr shown_rollDie_six scene_rollDie d6_range d6_ofFaces)
open Table (Aside aside_rollRecharges)

/-- How many recharges are not charged. -/
def uncharged (rs : List Recharge) : Nat := rs.countP fun r => !r.charged

/-- **The roll of the recharge in a place.**  Rolls go in order to those that are not charged. -/
def rollOf (rolls : Nat → Int) (rs : List Recharge) (place : Nat) : Int := rolls (uncharged (rs.take place))

/-- The recharges after they were rolled for. -/
def rolledFor (rolls : Nat → Int) (rs : List Recharge) : List Recharge :=
  rs.mapIdx fun place r => { r with charged := chargedBy (rollOf rolls rs place) r }

/-- The recharges that are charged by their rolls, with these rolls, in order. -/
def renewed (rolls : Nat → Int) (rs : List Recharge) : List (Recharge × Int) :=
  (rs.mapIdx fun place r => (r, rollOf rolls rs place)).filter fun b =>
    !b.1.charged && decide (b.1.threshold.face ≤ b.2)

theorem uncharged_cons (r : Recharge) (rs : List Recharge) :
    uncharged (r :: rs) = uncharged rs + if r.charged then 0 else 1 := by
  rw [uncharged, List.countP_cons, uncharged]
  cases r.charged <;> rfl

theorem rollOf_zero (rolls : Nat → Int) (rs : List Recharge) : rollOf rolls rs 0 = rolls 0 := rfl

/-- A charged recharge leaves the rolls to those after it. -/
theorem rollOf_succ_of_charged {r : Recharge} (charged : r.charged = true) (rolls : Nat → Int) (rs : List Recharge)
    (place : Nat) : rollOf rolls (r :: rs) (place + 1) = rollOf rolls rs place := by
  rw [rollOf, List.take_succ_cons, uncharged_cons, if_pos charged, Nat.add_zero, rollOf]

/-- A recharge that is not charged takes one roll. -/
theorem rollOf_succ_of_uncharged {r : Recharge} (used : r.charged = false) (rolls : Nat → Int) (rs : List Recharge)
    (place : Nat) : rollOf rolls (r :: rs) (place + 1) = rollOf (fun n => rolls (n + 1)) rs place := by
  rw [rollOf, List.take_succ_cons, uncharged_cons, used, if_neg Bool.false_ne_true, rollOf]

theorem rolledFor_of_charged {r : Recharge} (charged : r.charged = true) (rolls : Nat → Int) (rs : List Recharge) :
    rolledFor rolls (r :: rs) = r :: rolledFor rolls rs := by
  have same : { r with charged := chargedBy (rollOf rolls (r :: rs) 0) r } = r := by
    rw [chargedBy, charged, Bool.true_or, ← charged]
  simp only [rolledFor, List.mapIdx_cons, rollOf_succ_of_charged charged]
  rw [same]

theorem rolledFor_of_uncharged {r : Recharge} (used : r.charged = false) (rolls : Nat → Int) (rs : List Recharge) :
    rolledFor rolls (r :: rs) =
      { r with charged := decide (r.threshold.face ≤ rolls 0) } :: rolledFor (fun n => rolls (n + 1)) rs := by
  simp only [rolledFor, List.mapIdx_cons, rollOf_succ_of_uncharged used, rollOf_zero, chargedBy, used, Bool.false_or]
  rfl

theorem renewed_of_charged {r : Recharge} (charged : r.charged = true) (rolls : Nat → Int) (rs : List Recharge) :
    renewed rolls (r :: rs) = renewed rolls rs := by
  simp only [renewed, List.mapIdx_cons, rollOf_succ_of_charged charged]
  exact List.filter_cons_of_neg (by simp [charged])

theorem renewed_of_uncharged {r : Recharge} (used : r.charged = false) (rolls : Nat → Int) (rs : List Recharge) :
    renewed rolls (r :: rs) = (if r.threshold.face ≤ rolls 0 then [(r, rolls 0)] else []) ++
      renewed (fun n => rolls (n + 1)) rs := by
  simp only [renewed, List.mapIdx_cons, rollOf_succ_of_uncharged used, rollOf_zero, List.filter_cons, used,
    Bool.not_false, Bool.true_and, decide_eq_true_eq]
  split <;> rfl

/-- What is announced of recharges that are charged by their rolls. -/
def tidings (who : Creature) (renewed : List (Recharge × Int)) : List Emission :=
  renewed.map fun b => .announce who.id.text (.recharged b.1.action.text b.2)

/-- **What rolling for recharges answers and leaves.**  As many dice are thrown as there are recharges that are not
charged, and the stream of rolls goes on where it was left. -/
structure Renews (who : Creature) (rs : List Recharge) (e : Encounter) (ids : List String) (rs' : List Recharge)
    (f : Encounter) : Prop where
  named : ids = (renewed e.d6 rs).map fun b => b.1.action.text
  charged : rs' = rolledFor e.d6 rs
  announced : f.journal.filter Emission.isAnnounced =
    e.journal.filter Emission.isAnnounced ++ tidings who (renewed e.d6 rs)
  thrown : f.cup.shown = e.cup.shown + uncharged rs
  onward : ∀ n, f.d6 n = e.d6 (uncharged rs + n)
  elsewhere : Aside e f

/-- Rolling for a recharge that is not charged: one roll, and what it brings is told. -/
theorem rollRecharges_of_uncharged (who : Creature) {r : Recharge} (used : r.charged = false) (rs : List Recharge)
    (e : Encounter) : ∃ f : Encounter, f.cup = (rollDie 6 e).2.cup ∧
      f.journal.filter Emission.isAnnounced = e.journal.filter Emission.isAnnounced ++
        tidings who (if r.threshold.face ≤ e.d6 0 then [(r, e.d6 0)] else []) ∧
      rollRecharges who (r :: rs) e =
        (if r.threshold.face ≤ e.d6 0 then r.action.text :: (rollRecharges who rs f).1 else (rollRecharges who rs f).1,
          { r with charged := decide (r.threshold.face ≤ e.d6 0) } :: (rollRecharges who rs f).2.1,
          (rollRecharges who rs f).2.2) := by
  have quiet : (rollDie 6 e).2.journal.filter Emission.isAnnounced = e.journal.filter Emission.isAnnounced :=
    congrArg Encounter.journal (scene_rollDie 6 e)
  have first : e.d6 0 = (rollDie 6 e).1 := rfl
  simp only [rollRecharges, used, Bool.false_eq_true, if_false, first]
  generalize rollDie 6 e = die at quiet ⊢
  obtain ⟨roll, e⟩ := die
  by_cases shown : (r.threshold.face : Int) ≤ roll
  · simp only [shown, decide_true, if_true]
    refine ⟨note (.rechargeRolled who.name.text r.action.text roll r.threshold.face true)
      (announce who (.recharged r.action.text roll) e), rfl, ?_, rfl⟩
    simp only [note, announce, List.append_assoc, List.filter_append, quiet]
    rfl
  · simp only [shown, decide_false, Bool.false_eq_true, if_false]
    refine ⟨note (.rechargeRolled who.name.text r.action.text roll r.threshold.face false) e, rfl, ?_, rfl⟩
    simp only [note, List.filter_append, quiet]
    rfl

theorem rollRecharges_renews (who : Creature) : ∀ (rs : List Recharge) (e : Encounter),
    Renews who rs e (rollRecharges who rs e).1 (rollRecharges who rs e).2.1 (rollRecharges who rs e).2.2
  | [], e => by
    refine ⟨rfl, rfl, ?_, rfl, fun n => ?_, Aside.refl e⟩
    · exact (List.append_nil _).symm
    · rw [uncharged, List.countP_nil, Nat.zero_add]
      rfl
  | r :: rs, e => by
    have elsewhere := aside_rollRecharges who (r :: rs) e
    cases charged : r.charged with
    | true =>
      have rest := rollRecharges_renews who rs e
      rw [rollRecharges, if_pos charged] at elsewhere ⊢
      refine ⟨?_, ?_, ?_, ?_, ?_, elsewhere⟩
      · rw [renewed_of_charged charged]
        exact rest.named
      · rw [rolledFor_of_charged charged]
        exact congrArg (r :: ·) rest.charged
      · rw [renewed_of_charged charged]
        exact rest.announced
      · rw [uncharged_cons, if_pos charged]
        exact rest.thrown
      · rw [uncharged_cons, if_pos charged]
        exact rest.onward
    | false =>
      -- The first roll is for `r`; the others are rolled at the table it leaves, which shows what comes after it.
      obtain ⟨f, cup, journal, unrolled⟩ := rollRecharges_of_uncharged who charged rs e
      have rest := rollRecharges_renews who rs f
      have later : f.d6 = fun n => e.d6 (n + 1) := d6_congr cup
      rw [unrolled] at elsewhere ⊢
      refine ⟨?_, ?_, ?_, ?_, fun n => ?_, elsewhere⟩
      · rw [renewed_of_uncharged charged, ← later, List.map_append, ← rest.named]
        split <;> rfl
      · rw [rolledFor_of_uncharged charged, ← later]
        exact congrArg _ rest.charged
      · rw [renewed_of_uncharged charged, ← later, tidings, List.map_append, ← List.append_assoc]
        refine rest.announced.trans ?_
        rw [journal]
        rfl
      · rw [uncharged_cons, charged, if_neg Bool.false_ne_true]
        refine rest.thrown.trans ?_
        rw [cup, shown_rollDie_six]
        omega
      · rw [uncharged_cons, charged, if_neg Bool.false_ne_true]
        refine (rest.onward n).trans ?_
        rw [later]
        dsimp only
        congr 1
        omega

/-! ## Attempts -/

theorem getElem?_rolledFor (rolls : Nat → Int) (rs : List Recharge) (place : Nat) :
    (rolledFor rolls rs)[place]? =
      rs[place]?.map fun r => { r with charged := chargedBy (rollOf rolls rs place) r } := by
  rw [rolledFor, List.getElem?_mapIdx]

/-- The roll of a recharge that is not charged is among those that are made. -/
theorem uncharged_take_lt {r : Recharge} {rs : List Recharge} {place : Nat} (here : rs[place]? = some r)
    (used : r.charged = false) : uncharged (rs.take place) < uncharged rs := by
  obtain ⟨h, rfl⟩ := List.getElem?_eq_some_iff.1 here
  have split : rs = rs.take place ++ rs[place] :: rs.drop (place + 1) := by
    rw [← List.drop_eq_getElem_cons h, List.take_append_drop]
  have count : uncharged rs = uncharged (rs.take place) + uncharged (rs[place] :: rs.drop (place + 1)) := by
    conv_lhs => rw [split]
    exact List.countP_append
  rw [count, uncharged_cons, used, if_neg Bool.false_ne_true]
  omega

theorem charged_of_le {rolls rolls' : Nat → Int} {rs : List Recharge} (higher : ∀ n < uncharged rs, rolls n ≤ rolls' n)
    {place : Nat} {q : Recharge} (here : (rolledFor rolls rs)[place]? = some q) (full : q.charged = true) :
    (rolledFor rolls' rs)[place]? = some q := by
  rw [getElem?_rolledFor] at here ⊢
  obtain ⟨r, at_place, rfl⟩ := Option.map_eq_some_iff.1 here
  have still : chargedBy (rollOf rolls' rs place) r = true := by
    cases charged : r.charged with
    | true => rw [chargedBy, charged, Bool.true_or]
    | false =>
      have reached : (r.threshold.face : Int) ≤ rollOf rolls rs place := by simpa [chargedBy, charged] using full
      have below : rollOf rolls rs place ≤ rollOf rolls' rs place := higher _ (uncharged_take_lt at_place charged)
      simpa [chargedBy, charged] using Int.le_trans reached below
  rw [at_place, Option.map_some, still]
  exact congrArg (fun b => some { r with charged := b }) full.symm

/-- **An attempt to recharge rolls once for each recharge that is not charged, in order, and for no other.**  A recharge
is charged afterwards if it was before or if its own roll is its threshold or more; those that are charged by their
rolls are answered and announced, in order; nothing else of the creature is changed.  A threshold of one is always
reached; a table that shows no less charges no fewer; and any rolls of a die are shown at some table. -/
theorem attemptRecharge_renews (c : Creature) (e : Encounter) :
    ∃ (ids : List String) (rs : List Recharge) (f : Encounter),
      c.attemptRecharge e = (ids, { c with recharges := rs }, f) ∧
      Renews c c.recharges e ids rs f ∧
      (∀ (place : Nat) (r : Recharge), c.recharges[place]? = some r → r.threshold.face = 1 →
        rs[place]? = some { r with charged := true }) ∧
      (∀ g : Encounter, (∀ n < uncharged c.recharges, e.d6 n ≤ g.d6 n) → ∀ (place : Nat) (q : Recharge),
        rs[place]? = some q → q.charged = true → (c.attemptRecharge g).2.1.recharges[place]? = some q) ∧
      ∀ rolls : List Int, (∀ roll ∈ rolls, 1 ≤ roll ∧ roll ≤ 6) →
        ∃ g, Aside e g ∧ ∀ n (h : n < rolls.length), g.d6 n = rolls[n] := by
  have done := rollRecharges_renews c c.recharges e
  refine ⟨_, _, _, rfl, done, fun place r here one => ?_, fun g higher place q here full => ?_, fun rolls on_die => ?_⟩
  · have reached : chargedBy (rollOf e.d6 c.recharges place) r = true := by
      have shown : 1 ≤ rollOf e.d6 c.recharges place := (d6_range e _).1
      simp [chargedBy, one, shown]
    rw [done.charged, getElem?_rolledFor, here, Option.map_some, reached]
  · rw [done.charged] at here
    have same : (c.attemptRecharge g).2.1.recharges = rolledFor g.d6 c.recharges :=
      (rollRecharges_renews c c.recharges g).charged
    rw [same]
    exact charged_of_le higher here full
  · exact ⟨{ e with cup := .ofFaces rolls }, ⟨_, _, rfl⟩, fun n h => d6_ofFaces e on_die h⟩

end Creature
end Bestiary
