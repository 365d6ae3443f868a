import Bestiary.Proofs.Creature.Limits
/-!
# Recharging — a charge is spent by a use and comes back by a roll

One step does one of five things to the charge that an action is bound to (`charging_step`): nothing, bind it, unbind
it, spend it, or roll it back.  So between two uses of the action there is a roll that brought the charge back, whatever
else was done to the catalogue (`read_after_recharged`).
-/
namespace Bestiary
namespace Creature

open Encounter (noteAll evening)

/-- What a turn answers. -/
def answer (c : Creature) (t : Turn) : Response := (c.run t.command t.encounter t.supply).1

/-- Whether the first recharge of an action is charged, if there is one. -/
def charge? (c : Creature) (x : String) : Option Bool := (c.recharge? x).map (·.charged)

/-- The die that is rolled for a recharge after those before it were rolled. -/
def dieAfter (who : Creature) (before : List Recharge) (e : Encounter) : Int :=
  (Encounter.rollDie 6 (rollRecharges who before e).2.2).1

/-- **A command rolls a charge back**: it names the action in its answer, and the die that was rolled for its recharge
shows the threshold or more. -/
def RollsBack (c : Creature) (e : Encounter) (x : String) (command : Command) (answer : Response) : Prop :=
  (command = .attemptRecharge ∨ command = .startRound) ∧ (∃ ids, answer = .ids ids ∧ x ∈ ids) ∧
    ∃ before r after who f, c.recharges = before ++ r :: after ∧ r.action.text = x ∧ f.cup = e.cup ∧
      r.threshold.face ≤ dieAfter who before f

/-- **A command spends a charge**: it is a use of the action that was carried out, and the action is one to recharge. -/
def Spends (c : Creature) (x : String) (command : Command) (answer : Response) : Prop :=
  ∃ o report a, command = .use x o ∧ answer = .report (some report) ∧ c.action? x = some a ∧ a.economy = .recharge

/-- A turn rolls the charge of an action back. -/
def RollsBackIn (c : Creature) (t : Turn) (x : String) : Prop := c.RollsBack t.encounter x t.command (c.answer t)

/-- A turn spends the charge of an action. -/
def SpendsIn (c : Creature) (t : Turn) (x : String) : Prop := c.Spends x t.command (c.answer t)

/-- **What a step can do to the charge of an action.** -/
inductive Charging (c : Creature) (e : Encounter) (x : String) (command : Command) (answer : Response) :
    Option Bool → Option Bool → Prop where
  | kept (charge) : Charging c e x command answer charge charge
  | bound : Charging c e x command answer none (some true)
  | unbound (charge) (removal : command = .removeAction x) : Charging c e x command answer charge none
  | spent (use : c.Spends x command answer) : Charging c e x command answer (some true) (some false)
  | recharged (roll : c.RollsBack e x command answer) : Charging c e x command answer (some false) (some true)

/-! ## The table of recharges -/

theorem find?_own {x : String} {r : Recharge} {rs : List Recharge} (own : r.action.text = x) :
    (r :: rs).find? (fun r => r.action.text == x) = some r :=
  List.find?_cons_of_pos (by simpa using own)

theorem find?_other {x : String} {r : Recharge} {rs : List Recharge} (other : r.action.text ≠ x) :
    (r :: rs).find? (fun r => r.action.text == x) = rs.find? fun r => r.action.text == x :=
  List.find?_cons_of_neg (by simpa using other)

theorem find?_discharge_self {x : String} : ∀ rs : List Recharge,
    (discharge x rs).find? (fun r => r.action.text == x) =
      (rs.find? fun r => r.action.text == x).map fun r => { r with charged := false }
  | [] => rfl
  | r :: rs => by
    unfold discharge
    by_cases own : r.action.text = x
    · simp [own]
    · rw [if_neg own, find?_other own, find?_other own, find?_discharge_self rs]

theorem find?_discharge_of_ne {x y : String} (other : x ≠ y) : ∀ rs : List Recharge,
    (discharge y rs).find? (fun r => r.action.text == x) = rs.find? fun r => r.action.text == x
  | [] => rfl
  | r :: rs => by
    unfold discharge
    by_cases own : r.action.text = y
    · simp [own, Ne.symm other]
    · rw [if_neg own, List.find?_cons, List.find?_cons, find?_discharge_of_ne other rs]

/-- Binding an action anew changes at most the threshold of a recharge that is there. -/
theorem find?_rebind_of_bound {a : Action} {x : String} {r : Recharge} {rs : List Recharge}
    (bound : rs.find? (fun r => r.action.text == x) = some r) :
    ∃ q, (rebind a rs).find? (fun r => r.action.text == x) = some q ∧ q.charged = r.charged := by
  unfold rebind
  cases a.recharge with
  | none => exact ⟨r, bound, rfl⟩
  | some threshold =>
    dsimp only
    induction rs with
    | nil => cases bound
    | cons p rs ih =>
      unfold rebind.go
      by_cases own : p.action.text = x
      · rw [find?_own own] at bound
        cases bound
        split
        · exact ⟨_, find?_own own, rfl⟩
        · exact ⟨_, find?_own own, rfl⟩
      · rw [find?_other own] at bound
        split
        · exact ⟨r, (find?_other (r := { p with threshold := threshold }) own).trans bound, rfl⟩
        · obtain ⟨q, found, same⟩ := ih bound
          exact ⟨q, (find?_other own).trans found, same⟩

/-- A recharge that was not there before is charged. -/
theorem charged_of_find?_rebind {a : Action} {x : String} {q : Recharge} {rs : List Recharge}
    (unbound : rs.find? (fun r => r.action.text == x) = none)
    (found : (rebind a rs).find? (fun r => r.action.text == x) = some q) : q.charged = true := by
  unfold rebind at found
  cases threshold? : a.recharge with
  | none =>
    rw [threshold?, unbound] at found
    cases found
  | some threshold =>
    rw [threshold?] at found
    dsimp only at found
    induction rs with
    | nil =>
      rw [rebind.go] at found
      cases List.mem_singleton.1 (List.mem_of_find?_eq_some found)
      rfl
    | cons p rs ih =>
      have other : p.action.text ≠ x := fun own => by simp [own] at unbound
      rw [find?_other other] at unbound
      unfold rebind.go at found
      split at found
      · rw [find?_other (r := { p with threshold := threshold }) other, unbound] at found
        cases found
      · rw [find?_other other] at found
        exact ih unbound found

/-- The charge of a recharge whose die shows this. -/
def chargedBy (die : Int) (r : Recharge) : Bool := r.charged || decide (r.threshold.face ≤ die)

/-- Rolling recharges rolls the first one and then, with what that left on the table, the others. -/
theorem rollRecharges_cons (who : Creature) (r : Recharge) (rs : List Recharge) (e : Encounter) :
    rollRecharges who (r :: rs) e =
      (if r.charged = false ∧ r.threshold.face ≤ dieAfter who [] e
        then r.action.text :: (rollRecharges who rs (rollRecharges who [r] e).2.2).1
        else (rollRecharges who rs (rollRecharges who [r] e).2.2).1,
        { r with charged := chargedBy (dieAfter who [] e) r } ::
          (rollRecharges who rs (rollRecharges who [r] e).2.2).2.1,
        (rollRecharges who rs (rollRecharges who [r] e).2.2).2.2) := by
  cases charged : r.charged with
  | true =>
    rw [rollRecharges, if_pos charged, if_neg (by simp), chargedBy, charged, Bool.true_or, ← charged]
    simp only [rollRecharges, if_pos charged]
  | false =>
    rw [rollRecharges, if_neg (by simp [charged]), chargedBy, charged, Bool.false_or]
    simp only [rollRecharges, dieAfter, charged, Bool.false_eq_true, if_false, decide_eq_true_eq, true_and]
    rfl

theorem dieAfter_cons (who : Creature) (q : Recharge) (before : List Recharge) (e : Encounter) :
    dieAfter who (q :: before) e = dieAfter who before (rollRecharges who [q] e).2.2 := by
  rw [dieAfter, rollRecharges_cons]
  rfl

/-- **A recharge is charged after the rolls if it was before or if its die shows its threshold**, and in the second case
its action is in the answer. -/
theorem rollRecharges_of_find (who : Creature) {x : String} {r : Recharge} : ∀ {rs : List Recharge} (e : Encounter),
    rs.find? (fun q => q.action.text == x) = some r → ∃ before after, rs = before ++ r :: after ∧ r.action.text = x ∧
      (rollRecharges who rs e).2.1.find? (fun q => q.action.text == x) =
        some { r with charged := chargedBy (dieAfter who before e) r } ∧
      (r.charged = false → r.threshold.face ≤ dieAfter who before e → x ∈ (rollRecharges who rs e).1)
  | [], _, h => nomatch h
  | q :: rs, e, h => by
    have first := rollRecharges_cons who q rs e
    by_cases own : q.action.text = x
    · rw [find?_own own] at h
      cases h
      refine ⟨[], rs, rfl, own, ?_, fun spent shown => ?_⟩
      · rw [first]
        exact find?_own own
      · rw [first, if_pos ⟨spent, shown⟩, own]
        exact List.mem_cons_self
    · rw [find?_other own] at h
      obtain ⟨before, after, rfl, mine, found, named⟩ := rollRecharges_of_find who _ h
      have die := dieAfter_cons who q before e
      refine ⟨q :: before, after, rfl, mine, ?_, fun spent shown => ?_⟩
      · rw [first, die, ← found]
        exact find?_other own
      · rw [first]
        dsimp only
        split
        · exact List.mem_cons_of_mem _ (named spent (die ▸ shown))
        · exact named spent (die ▸ shown)

theorem rollRecharges_of_unbound {who : Creature} {x : String} {rs : List Recharge} (e : Encounter)
    (unbound : rs.find? (fun q => q.action.text == x) = none) :
    (rollRecharges who rs e).2.1.find? (fun q => q.action.text == x) = none := by
  have ids := rollRecharges_ids who rs e
  rw [List.find?_eq_none] at unbound ⊢
  intro q hq own
  have bound : q.action.text ∈ rs.map fun r => r.action.text := ids ▸ List.mem_map_of_mem hq
  obtain ⟨r, hr, same⟩ := List.mem_map.1 bound
  exact unbound r hr (by simpa [same] using own)

/-! ## Steps -/

theorem charging_rolled {c who : Creature} {e f f' : Encounter} {x : String} {command : Command} {ids : List String}
    {rs : List Recharge} (roll : command = .attemptRecharge ∨ command = .startRound) (same : f.cup = e.cup)
    (rolled : rollRecharges who c.recharges f = (ids, rs, f')) :
    Charging c e x command (.ids ids) (c.charge? x) ((rs.find? fun r => r.action.text == x).map (·.charged)) := by
  have ids_eq : (rollRecharges who c.recharges f).1 = ids := by rw [rolled]
  have rs_eq : (rollRecharges who c.recharges f).2.1 = rs := by rw [rolled]
  unfold charge? recharge?
  cases bound : c.recharges.find? fun r => r.action.text == x with
  | none =>
    rw [← rs_eq, rollRecharges_of_unbound f bound]
    exact .kept _
  | some r =>
    obtain ⟨before, after, split, own, found, named⟩ := rollRecharges_of_find who f bound
    rw [← rs_eq, found]
    simp only [Option.map_some, chargedBy]
    cases charged : r.charged with
    | true => exact .kept _
    | false =>
      by_cases shown : r.threshold.face ≤ dieAfter who before f
      · rw [decide_eq_true shown]
        have listed : x ∈ ids := ids_eq ▸ named charged shown
        exact .recharged ⟨roll, ⟨ids, rfl, listed⟩, before, r, after, who, f, split, own, same, shown⟩
      · rw [decide_eq_false shown]
        exact .kept _

/-- An action to recharge that can be used has its charge, and pays with it. -/
theorem charge?_of_able {c : Creature} {e : Encounter} {a : Action} {x : String} (found : c.action? x = some a)
    (economy : a.economy = .recharge) (able : c.canUse a e = true) :
    c.charge? x = some true ∧ (pay a c).charge? x = some false := by
  have named : a.id.text = x := by simpa using List.find?_some found
  have charged : (c.recharge? x).any (·.charged) = true := by
    rw [← named]
    simpa [canUse, economy] using able
  obtain ⟨r, bound, full⟩ := (Option.any_eq_true _ _).1 charged
  have discharged : (pay a c).recharges = discharge x c.recharges := by rw [pay, economy, named]
  refine ⟨by rw [charge?, bound, Option.map_some, full], ?_⟩
  rw [recharge?] at bound
  rw [charge?, recharge?, discharged, find?_discharge_self, bound, Option.map_some, Option.map_some]

/-- **A step does one of five things to the charge of an action.** -/
theorem charging_step {c c' : Creature} {e : Encounter} {command : Command} {answer : Response}
    (h : Step c e command answer c') (x : String) : Charging c e x command answer (c.charge? x) (c'.charge? x) := by
  cases h with
  | @used id o a report found able =>
    have same : ({ pay a c with history := c.history ++ [entry a report e] } : Creature).charge? x =
      (pay a c).charge? x := rfl
    rw [same]
    cases economy : a.economy with
    | recharge =>
      by_cases own : x = id
      · subst own
        obtain ⟨full, spent⟩ := charge?_of_able found economy able
        rw [full, spent]
        exact .spent ⟨o, report, a, rfl, rfl, found, economy⟩
      · have named : a.id.text = id := by simpa using List.find?_some found
        have untouched : (pay a c).charge? x = c.charge? x := by
          rw [charge?, recharge?, pay, economy]
          dsimp only
          rw [named, find?_discharge_of_ne own, charge?, recharge?]
        rw [untouched]
        exact .kept _
    | _ =>
      have untouched : (pay a c).charge? x = c.charge? x := by rw [charge?, recharge?, pay, economy, charge?, recharge?]
      rw [untouched]
      exact .kept _
  | @added submission s s' a accepted =>
    unfold charge? recharge?
    cases bound : c.recharges.find? fun r => r.action.text == x with
    | some r =>
      obtain ⟨q, found, same⟩ := find?_rebind_of_bound (a := a) bound
      rw [found, Option.map_some, Option.map_some, same]
      exact .kept _
    | none =>
      cases found : (rebind a c.recharges).find? fun r => r.action.text == x with
      | none => exact .kept _
      | some q =>
        rw [Option.map_some, charged_of_find?_rebind bound found]
        exact .bound
  | @removed id a found =>
    unfold charge? recharge?
    by_cases same : id = x
    · have gone : (c.recharges.filter fun r => r.action.text != id).find? (fun r => r.action.text == x) = none := by
        simp [List.find?_eq_none, same]
      rw [gone]
      exact .unbound _ (by rw [same])
    · have others : (c.recharges.filter fun r => r.action.text != id).find? (fun r => r.action.text == x) =
          c.recharges.find? fun r => r.action.text == x := by
        rw [List.find?_filter]
        congr 1
        funext r
        by_cases own : r.action.text = x
        · simp [own, Ne.symm same]
        · simp [own]
      rw [others]
      exact .kept _
  | recharged rolled => exact charging_rolled (.inl rfl) rfl rolled
  | begun same rolled => exact charging_rolled (.inr rfl) same rolled
  | _ => exact .kept _

/-! ## Runs -/

/-- In a creature that binds each action once, a recharge is found by its action. -/
theorem recharge?_of_mem {c : Creature} (limits : c.InLimits) {r : Recharge} (hr : r ∈ c.recharges) :
    c.recharge? r.action.text = some r := by
  have once := limits.boundOnce
  unfold recharge?
  generalize c.recharges = rs at hr once
  induction rs with
  | nil => cases hr
  | cons q rs ih =>
    rw [List.map_cons, List.nodup_cons] at once
    rcases List.mem_cons.1 hr with rfl | hr
    · exact find?_own rfl
    · have other : q.action.text ≠ r.action.text := fun same => once.1 (same ▸ List.mem_map_of_mem hr)
      rw [find?_other other]
      exact ih hr once.2

theorem charge?_of_mem {c : Creature} (limits : c.InLimits) {r : Recharge} (hr : r ∈ c.recharges) :
    c.charge? r.action.text = some r.charged := by
  rw [charge?, recharge?_of_mem limits hr, Option.map_some]

theorem charging_turn (c : Creature) (t : Turn) (x : String) :
    Charging c t.encounter x t.command (c.answer t) (c.charge? x) ((c.after [t]).charge? x) :=
  charging_step (run_step t.command c t.encounter t.supply) x

theorem charge?_of_spends {c : Creature} {t : Turn} {x : String} (use : c.SpendsIn t x) :
    c.charge? x = some true ∧ (c.after [t]).charge? x = some false := by
  obtain ⟨o, report, a, command, answered, found, economy⟩ := use
  have step := run_step t.command c t.encounter t.supply
  rw [after, after]
  rw [answer] at answered
  rw [answered] at step
  generalize (c.run t.command t.encounter t.supply).2.1 = c' at step
  rw [command] at step
  cases step with
  | used report found' able =>
    cases found.symm.trans found'
    exact charge?_of_able found economy able

/-- An action to recharge that can be used is used. -/
theorem spendsIn_of_able {c : Creature} {t : Turn} {x : String} {o : Options} (command : t.command = .use x o)
    (able : (c.action? x).any (fun a => a.economy = .recharge && c.canUse a t.encounter) = true) : c.SpendsIn t x := by
  obtain ⟨a, found, ready⟩ := (Option.any_eq_true _ _).1 able
  rw [Bool.and_eq_true, decide_eq_true_eq] at ready
  refine ⟨o, (act a o c (noteAll (checkNotices a t.encounter) t.encounter)).1, a, command, ?_, found, ready.1⟩
  rw [answer, command, run, use_of_able o found ready.2]

/-- **A charge that is spent is rolled back before it is there again**, unless the action is removed. -/
theorem rolled_back_of_spent {x : String} : ∀ (ts : List Turn) (c : Creature), c.charge? x = some false →
    (c.after ts).charge? x = some true → (∀ t ∈ ts, t.command ≠ .removeAction x) →
    ∃ pre t post, ts = pre ++ t :: post ∧ (c.after pre).RollsBackIn t x
  | [], c, spent, full, _ => by
    rw [after, spent] at full
    cases full
  | t :: ts, c, spent, full, kept => by
    -- The first turn keeps the charge spent, and the others roll it back, or rolls it back itself.
    have step := charging_turn c t x
    rw [spent] at step
    generalize next : (c.after [t]).charge? x = charge at step
    cases step with
    | kept _ =>
      obtain ⟨pre, u, post, rfl, roll⟩ := rolled_back_of_spent ts (c.after [t]) next full
        fun u hu => kept u (List.mem_cons_of_mem _ hu)
      exact ⟨t :: pre, u, post, rfl, roll⟩
    | unbound _ removal => exact absurd removal (kept t List.mem_cons_self)
    | recharged roll => exact ⟨[], t, ts, rfl, roll⟩

/-- **A charge goes by a use and comes by a roll, at every point of every run of a creature that was read**; and between
two uses of an action to recharge that is not removed in between, there is a turn that rolls its charge back. -/
theorem read_after_recharged (j : Json) (s s' : Supply) (c : Creature)
    (accepted : (Creature.read j).run s = (.ok c, s')) (before : List Turn) (x : String) :
    (∀ t, ∀ p ∈ (c.after before).recharges, ∀ q ∈ ((c.after before).after [t]).recharges,
      p.action.text = x → q.action.text = x →
        (p.charged = false → q.charged = true → (c.after before).RollsBackIn t x) ∧
        (p.charged = true → q.charged = false → (c.after before).SpendsIn t x)) ∧
    ∀ first between last, (c.after before).SpendsIn first x →
      ((c.after before).after (first :: between)).SpendsIn last x → (∀ t ∈ between, t.command ≠ .removeAction x) →
      ∃ pre t post, between = pre ++ t :: post ∧ ((c.after before).after (first :: pre)).RollsBackIn t x := by
  have limits := after_inLimits before (inLimits_of_read accepted)
  generalize c.after before = d at limits
  refine ⟨fun t p hp q hq own own' => ?_, fun first between last use again kept => ?_⟩
  · have step := charging_turn d t x
    have charged := charge?_of_mem limits hp
    have charged' := charge?_of_mem (after_inLimits [t] limits) hq
    rw [own] at charged
    rw [own'] at charged'
    rw [charged, charged'] at step
    refine ⟨fun spent full => ?_, fun full spent => ?_⟩
    · rw [spent, full] at step
      cases step with
      | recharged roll => exact roll
    · rw [spent, full] at step
      cases step with
      | spent use => exact use
  · exact rolled_back_of_spent between (d.after [first]) (charge?_of_spends use).2 (charge?_of_spends again).1 kept

/-- A turn of the dragon at a table where every die shows five. -/
def dragonTurn (command : Command) : Turn := ⟨command, .opening [] [5], ⟨9, evening⟩⟩

/-- Between two breaths the dragon takes up another breath in the place of its own, and a round begins. -/
def betweenBreaths : List Turn :=
  let coldBreath : Json := .obj
    [("id", .str "breath"), ("name", .str "Cold Breath"), ("type", .str "recharge"), ("recharge", .int 4)]
  [dragonTurn (.addAction (.document coldBreath)), dragonTurn .activateMythic, dragonTurn .startRound]

theorem read_after_recharged_dragon : ∃ c s', (Creature.read overdrawnDragon).run ⟨0, evening⟩ = (.ok c, s') ∧
    c.SpendsIn (dragonTurn (.use "breath" .none)) "breath" ∧
    ∃ pre t post, betweenBreaths = pre ++ t :: post ∧
      (c.after (dragonTurn (.use "breath" .none) :: pre)).RollsBackIn t "breath" := by
  refine ⟨_, _, rfl, spendsIn_of_able rfl (by decide +kernel), ?_⟩
  refine (read_after_recharged overdrawnDragon ⟨0, evening⟩ _ _ rfl [] "breath").2 _ betweenBreaths
    (dragonTurn (.use "breath" .none)) (spendsIn_of_able rfl (by decide +kernel))
    (spendsIn_of_able rfl (by decide +kernel)) ?_
  intro t ht
  simp only [betweenBreaths, List.mem_cons, List.not_mem_nil, or_false] at ht
  rcases ht with rfl | rfl | rfl <;> exact nofun

end Creature
end Bestiary
