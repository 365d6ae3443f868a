import Mathlib.Data.List.Nodup
import Bestiary.Proofs.Creature.Step
/-!
# Limits — what holds of a creature at any time

Reading a creature brings its counters within their bounds and binds each action once (`inLimits_of_normalize`), and
every command keeps them there (`inLimits_step`), so they are there after any run (`read_after_inLimits`).
-/
namespace Bestiary

namespace Intake

theorem run_check_ok {α β : Type} {m : Intake α} {test : α → Except Issue.Cause β} {s s' : Supply} {b : β}
    (h : (check m test).run s = (.ok b, s')) : ∃ a, m.run s = (.ok a, s') ∧ test a = .ok b := by
  simp only [check, run] at h ⊢
  split at h
  · rename_i a t read
    cases tested : test a with
    | error cause =>
      rw [tested] at h
      cases h
    | ok b' =>
      rw [tested] at h
      obtain ⟨rfl, rfl⟩ : b' = b ∧ t = s' := by simpa [ofExcept, Intake.pure] using h
      exact ⟨a, read, tested⟩
  · cases h

theorem run_record_ok {α : Type} {name : String} {read : Entries → Intake α} {j : Json} {s s' : Supply} {a : α}
    (h : (record name read j).run s = (.ok a, s')) : ∃ entries, j = .obj entries ∧ (read entries).run s = (.ok a, s') := by
  cases j with
  | obj entries => exact ⟨entries, rfl, h⟩
  | _ => cases h

end Intake

namespace Creature

open Encounter (evening)

/-- **The bounds of a creature's counters**, and one recharge for an action. -/
structure InLimits (c : Creature) : Prop where
  legendary : c.legendary ≤ c.maxLegendary
  mythic : c.mythic ≤ c.maxMythic
  villain : c.villainUsed ≤ c.villainPerRound
  paragon : c.paragonPhase ≤ c.paragonPhases
  boundOnce : (c.recharges.map fun r => r.action.text).Nodup
  thresholds : ∀ r ∈ c.recharges, 1 ≤ r.threshold.face ∧ r.threshold.face ≤ 6

/-- The maxima stay and no paragon phase is gone back to. -/
structure Onward (c c' : Creature) : Prop where
  maxLegendary : c'.maxLegendary = c.maxLegendary
  maxMythic : c'.maxMythic = c.maxMythic
  villainPerRound : c'.villainPerRound = c.villainPerRound
  paragonPhases : c'.paragonPhases = c.paragonPhases
  paragonPhase : c.paragonPhase ≤ c'.paragonPhase

theorem Onward.refl (c : Creature) : Onward c c := ⟨rfl, rfl, rfl, rfl, Nat.le_refl _⟩

theorem Onward.trans {a b c : Creature} (h : Onward a b) (k : Onward b c) : Onward a c :=
  ⟨k.maxLegendary.trans h.maxLegendary, k.maxMythic.trans h.maxMythic, k.villainPerRound.trans h.villainPerRound,
    k.paragonPhases.trans h.paragonPhases, Nat.le_trans h.paragonPhase k.paragonPhase⟩

/-! ## The recharges -/

theorem discharge_ids (id : String) : ∀ rs : List Recharge,
    (discharge id rs).map (fun r => r.action.text) = rs.map fun r => r.action.text
  | [] => rfl
  | r :: rs => by
    unfold discharge
    split
    · rfl
    · rw [List.map_cons, List.map_cons, discharge_ids id rs]

theorem rollRecharges_ids (who : Creature) : ∀ (rs : List Recharge) (e : Encounter),
    (rollRecharges who rs e).2.1.map (fun r => r.action.text) = rs.map fun r => r.action.text
  | [], _ => rfl
  | r :: rs, e => by
    simp only [rollRecharges]
    split
    · rw [List.map_cons, List.map_cons, rollRecharges_ids who rs]
    · rw [List.map_cons, List.map_cons, rollRecharges_ids who rs]

theorem ids_of_rolled {who : Creature} {rs rs' : List Recharge} {e f : Encounter} {ids : List String}
    (rolled : rollRecharges who rs e = (ids, rs', f)) :
    rs'.map (fun r => r.action.text) = rs.map fun r => r.action.text := by
  have h := rollRecharges_ids who rs e
  rw [rolled] at h
  exact h

/-- Binding an action leaves the bound ids alone, or adds the action's at the end. -/
theorem rebind_go_ids (a : Action) (threshold : Threshold) : ∀ rs : List Recharge,
    ((rebind.go a threshold rs).map fun r => r.action.text) =
      if a.id.text ∈ rs.map (fun r => r.action.text) then rs.map fun r => r.action.text
      else rs.map (fun r => r.action.text) ++ [a.id.text]
  | [] => rfl
  | r :: rs => by
    unfold rebind.go
    by_cases same : r.action = a.id
    · simp [same]
    · have other : a.id.text ≠ r.action.text := fun h => same (Label.text_inj.1 h.symm)
      rw [if_neg same, List.map_cons, List.map_cons, rebind_go_ids a threshold rs]
      by_cases later : a.id.text ∈ rs.map fun r => r.action.text
      · rw [if_pos later, if_pos (List.mem_cons_of_mem _ later)]
      · rw [if_neg later, if_neg (by simp [other]; simpa using later), List.cons_append]

theorem nodup_rebind (a : Action) (rs : List Recharge) (h : (rs.map fun r => r.action.text).Nodup) :
    ((rebind a rs).map fun r => r.action.text).Nodup := by
  unfold rebind
  cases a.recharge with
  | none => exact h
  | some threshold =>
    rw [rebind_go_ids]
    split
    · exact h
    · rename_i fresh
      rw [← List.concat_eq_append]
      exact h.concat fresh

theorem nodup_bind : ∀ (actions : List Action) (rs : List Recharge), (rs.map fun r => r.action.text).Nodup →
    ((bind rs actions).map fun r => r.action.text).Nodup
  | [], _, h => h
  | a :: rest, rs, h => by
    unfold bind
    cases a.recharge with
    | none => exact nodup_bind rest rs h
    | some threshold =>
      dsimp only
      split
      · exact nodup_bind rest rs h
      · rename_i unbound
        have fresh : a.id.text ∉ rs.map fun r => r.action.text := by simpa using unbound
        refine nodup_bind rest _ ?_
        rw [List.map_append, List.map_singleton, ← List.concat_eq_append]
        exact h.concat fresh

theorem nodup_of_firstDuplicate? : ∀ (rs : List Recharge) (seen : List String), firstDuplicate? seen rs = none →
    (rs.map fun r => r.action.text).Nodup ∧ ∀ r ∈ rs, r.action.text ∉ seen
  | [], _, _ => ⟨List.nodup_nil, fun _ h => by cases h⟩
  | r :: rs, seen, h => by
    unfold firstDuplicate? at h
    split at h
    · cases h
    · rename_i unseen
      obtain ⟨nodup, fresh⟩ := nodup_of_firstDuplicate? rs _ h
      refine ⟨List.nodup_cons.2 ⟨fun hm => ?_, nodup⟩, fun r' hr' => ?_⟩
      · obtain ⟨r', hr', same⟩ := List.mem_map.1 hm
        exact fresh r' hr' (same ▸ List.mem_cons_self)
      · rcases List.mem_cons.1 hr' with rfl | hr'
        · simpa using unseen
        · exact fun hm => fresh r' hr' (List.mem_cons_of_mem _ hm)

/-! ## Steps -/

theorem pay_onward (a : Action) (c : Creature) : Onward c (pay a c) := by
  unfold pay
  split <;> exact ⟨rfl, rfl, rfl, rfl, Nat.le_refl _⟩

theorem onward_step {c c' : Creature} {e : Encounter} {command : Command} {r : Response}
    (h : Step c e command r c') : Onward c c' := by
  cases h with
  | used _ _ _ => exact { pay_onward _ c with }
  | advanced _ => exact ⟨rfl, rfl, rfl, rfl, Nat.le_succ _⟩
  | _ => exact ⟨rfl, rfl, rfl, rfl, Nat.le_refl _⟩

theorem pay_inLimits (a : Action) {c : Creature} (h : c.InLimits) : (pay a c).InLimits := by
  unfold pay
  split
  · exact { h with legendary := Nat.le_trans (Nat.sub_le _ _) h.legendary }
  · exact { h with mythic := Nat.le_trans (Nat.sub_le _ _) h.mythic }
  · exact { h with villain := Nat.min_le_left _ _ }
  · exact { h with boundOnce := by rw [discharge_ids]; exact h.boundOnce, thresholds := fun r _ => r.threshold.onDie }
  · exact h

/-- **Every step stays in the limits.** -/
theorem inLimits_step {c c' : Creature} {e : Encounter} {command : Command} {r : Response}
    (h : Step c e command r c') (limits : c.InLimits) : c'.InLimits := by
  have faces (rs : List Recharge) : ∀ r ∈ rs, 1 ≤ r.threshold.face ∧ r.threshold.face ≤ 6 :=
    fun r _ => r.threshold.onDie
  cases h with
  | refused _ => exact limits
  | used _ _ _ => exact { pay_inLimits _ limits with }
  | added a _ => exact { limits with boundOnce := nodup_rebind a _ limits.boundOnce, thresholds := faces _ }
  | rejected _ _ => exact limits
  | removed _ =>
    exact { limits with
      boundOnce := limits.boundOnce.sublist (List.filter_sublist.map _), thresholds := faces _ }
  | unknown _ => exact limits
  | legendaryFilled => exact { limits with legendary := Nat.le_refl _ }
  | mythicFilled => exact { limits with mythic := Nat.le_refl _ }
  | villainCleared => exact { limits with villain := Nat.zero_le _ }
  | mythicBegun => exact { limits with mythic := Nat.le_refl _ }
  | mythicEnded => exact { limits with mythic := Nat.zero_le _ }
  | advanced before => exact { limits with paragon := before }
  | atLast _ => exact limits
  | recharged rolled =>
    refine { limits with boundOnce := ?_, thresholds := faces _ }
    rw [ids_of_rolled rolled]
    exact limits.boundOnce
  | begun _ rolled =>
    refine { limits with legendary := Nat.le_refl _, villain := Nat.zero_le _, boundOnce := ?_, thresholds := faces _ }
    rw [ids_of_rolled rolled]
    exact limits.boundOnce

/-! ## Reading and runs -/

theorem clamp_le (n : Int) (most : Nat) : clamp n most ≤ most := by
  unfold clamp
  omega

/-- **A creature that is read is in its limits**, whatever numbers its document gives. -/
theorem inLimits_of_normalize {g : Given} {c : Creature} (h : normalize g = .ok c) : c.InLimits := by
  unfold normalize at h
  split at h
  · cases h
  · rename_i single
    injection h with h
    subst h
    exact ⟨clamp_le _ _, clamp_le _ _, Nat.min_le_right _ _, Nat.min_le_right _ _,
      nodup_bind _ _ (nodup_of_firstDuplicate? _ _ single).1, fun r _ => r.threshold.onDie⟩

theorem inLimits_of_read {j : Json} {s s' : Supply} {c : Creature} (accepted : (Creature.read j).run s = (.ok c, s')) :
    c.InLimits := by
  obtain ⟨entries, -, h⟩ := Intake.run_record_ok accepted
  obtain ⟨g, -, h⟩ := Intake.run_check_ok h
  exact inLimits_of_normalize h

theorem after_inLimits (ts : List Turn) {c : Creature} (h : c.InLimits) : (c.after ts).InLimits :=
  after_keeps inLimits_step ts c h

theorem after_onward (ts : List Turn) (c : Creature) : Onward c (c.after ts) :=
  after_keeps (P := Onward c) (fun h k => k.trans (onward_step h)) ts c (Onward.refl c)

/-- **A creature that was read stays in its limits at every point of every run**, on the way from which the maxima
stay and the paragon phase never falls. -/
theorem read_after_inLimits (j : Json) (s s' : Supply) (c : Creature)
    (accepted : (Creature.read j).run s = (.ok c, s')) (before later : List Turn) :
    (c.after before).InLimits ∧ Onward c (c.after before) ∧
      Onward (c.after before) (c.after (before ++ later)) := by
  refine ⟨after_inLimits before (inLimits_of_read accepted), after_onward before c, ?_⟩
  rw [after_append]
  exact after_onward later _

/-- A document of a dragon with all of its counters out of their bounds. -/
def overdrawnDragon : Json :=
  .obj [("name", .str "Dragon"), ("maxLegendaryActions", .int 3), ("remainingLegendaryActions", .int 9),
    ("maxMythicActions", .int 2), ("remainingMythicActions", .int (-4)), ("paragonPhases", .int 1),
    ("currentParagonPhase", .int 5), ("villainActionsPerRound", .int 1), ("usedVillainActionsThisRound", .int 7),
    ("actions", .arr
      [.obj [("id", .str "tail"), ("name", .str "Tail"), ("type", .str "legendary"), ("cost", .int 2)],
        .obj [("id", .str "surge"), ("name", .str "Surge"), ("type", .str "mythic")],
        .obj [("id", .str "plot"), ("name", .str "Plot"), ("type", .str "villain_action")],
        .obj [("id", .str "breath"), ("name", .str "Breath"), ("type", .str "recharge"), ("recharge", .int 5)]])]

/-- A round of the dragon: one attack of each kind, one more than its pool holds, and the mythic phase. -/
def dragonRound : List Turn :=
  let turn (command : Command) : Turn := ⟨command, .opening [] [5], ⟨9, evening⟩⟩
  [turn (.use "tail" .none), turn (.use "tail" .none), turn .resetVillain, turn (.use "plot" .none),
    turn .activateMythic, turn (.use "surge" .none), turn (.use "breath" .none), turn .advanceParagon]

theorem read_after_inLimits_dragon : ∃ c s', (Creature.read overdrawnDragon).run ⟨0, evening⟩ = (.ok c, s') ∧
    (c.after dragonRound).InLimits ∧ Onward c (c.after dragonRound) ∧
    Onward (c.after dragonRound) (c.after (dragonRound ++ dragonRound)) :=
  ⟨_, _, rfl, read_after_inLimits overdrawnDragon ⟨0, evening⟩ _ _ rfl dragonRound dragonRound⟩

end Creature
end Bestiary
